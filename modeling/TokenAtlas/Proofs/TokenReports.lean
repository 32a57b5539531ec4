import Mathlib
import TokenAtlas.CommandLine

/-!
# Reports on tokens

The program is asked for tokens by the name of a subcommand, the path of a document, two hyphens,
and the tokens themselves, which may then begin with a hyphen or be empty.  It reports on all of
them or on none: where the document gives an atlas there is one line for each token, in their order,
and where it gives none there is only the error.

The report is written line by line, and a resolution without a text would end it in between.  No
resolution is without a text, so a report that is begun is brought to its end.

## Key results

- `ofArgs_lookup`: what the arguments ask for
- `exists_tokenLine`: every token has a line
- `exists_report`: the run over all tokens, from what has been written before
- `lookup_all_or_nothing`: the answer of the program
-/

namespace TokenAtlas.CommandLine

/-- Whether a line tells what an atlas knows of a token. -/
inductive LineOf (a : Atlas) (token : String) : String → Prop
  | known {r : Resolution} {text : String} (hr : a.resolve? token = some r)
      (htext : r.text = .ok text) : LineOf a token (token ++ ": " ++ text ++ "\n")
  | unknown (h : a.resolve? token = none) : LineOf a token (token ++ ": unrecognized\n")

/-! ## Arguments -/

/-- An argument that does not begin with a hyphen is a value. -/
theorem read_value {arg : String} (h : arg.toList.head? ≠ some '-') (rest : List String) :
    Values.read none (arg :: rest) = Values.cons arg (Values.read none rest) := by
  -- Whatever is more than a value begins with a hyphen.
  have hdashes : arg ≠ "--" := by
    rintro rfl
    exact h rfl
  have hhelp : asksForHelp arg = false := by
    unfold asksForHelp
    rw [Bool.or_eq_false_iff, beq_eq_false_iff_ne, beq_eq_false_iff_ne]
    constructor
    · rintro rfl
      exact h rfl
    · intro htake
      apply h
      simpa [List.head?_take] using congrArg List.head? htake
  have hoption : isOption arg = false := by
    unfold isOption
    split
    · rename_i heq
      exact absurd (by rw [heq]; rfl) h
    · rfl
  rw [Values.read, if_neg hdashes, if_neg (by simp [hhelp]), if_neg (by simp [hoption])]
  rfl

/-- After two hyphens every argument is a value. -/
theorem read_dashes (tokens : List String) : Values.read none ("--" :: tokens) = .all tokens := by
  rw [Values.read, if_pos rfl]
  rfl

/-- A subcommand that is given values makes its request with them. -/
theorem ofArgs_of_read {command : Command} {args values : List String}
    (h : Values.read command.capacity args = .all values) :
    command.ofArgs args = command.request values := by
  unfold Command.ofArgs
  rw [h]

theorem ofArgs_lookup {path : String} {tokens : List String} (hpath : path.toList.head? ≠ some '-')
    (htokens : tokens ≠ []) :
    Request.ofArgs ("lookup" :: path :: "--" :: tokens) = .lookup path tokens := by
  have hcommand : Request.ofArgs ("lookup" :: path :: "--" :: tokens) =
      Command.lookup.ofArgs (path :: "--" :: tokens) := by
    have hversion : asksForVersion "lookup" = false := by decide
    have hhelp : asksForHelp "lookup" = false := by decide
    have hname : Command.ofName? "lookup" = some .lookup := by decide
    simp [Request.ofArgs, hversion, hhelp, hname]
  -- The path and the tokens are all that is read: there is no limit to the number of values.
  have hread : Values.read Command.lookup.capacity (path :: "--" :: tokens) =
      .all (path :: tokens) := by
    show Values.read none (path :: "--" :: tokens) = _
    rw [read_value hpath, read_dashes]
    rfl
  rw [hcommand, ofArgs_of_read hread]
  cases tokens with
  | nil => exact absurd rfl htokens
  | cons token tokens => rfl

/-! ## Lines -/

/-- Every token has a line, since no resolution is without a text. -/
theorem exists_tokenLine (a : Atlas) (token : String) :
    ∃ line, tokenLine a token = .ok line ∧ LineOf a token line := by
  unfold tokenLine
  cases h : a.resolve? token with
  | none => exact ⟨_, rfl, .unknown h⟩
  | some r => exact ⟨_, rfl, .known h r.text_eq⟩

/-- A token has one line only. -/
theorem rightUnique_lineOf (a : Atlas) : Relator.RightUnique (LineOf a) := by
  intro token line line' h h'
  -- A token is resolved in one way, and what is found has one text.
  cases h with
  | known hr htext =>
    cases h' with
    | known hr' htext' =>
      rw [hr, Option.some.injEq] at hr'
      subst hr'
      rw [htext, Except.ok.injEq] at htext'
      rw [htext']
    | unknown hr' => simp [hr] at hr'
  | unknown hr =>
    cases h' with
    | known hr' => simp [hr] at hr'
    | unknown => rfl

/-- The line of the first token comes after what has been written, and the others after that. -/
theorem report_cons {a : Atlas} {token line : String} (h : tokenLine a token = .ok line)
    (written : String) (rest : List String) :
    report a written (token :: rest) = report a (written ++ line) rest := by
  rw [report]
  simp only [h]

/-- A report comes to its end, whatever has been written before.  The induction is on the tokens. -/
theorem exists_report (a : Atlas) (written : String) (tokens : List String) :
    ∃ lines, List.Forall₂ (LineOf a) tokens lines ∧
      report a written tokens = { code := 0, output := written ++ String.join lines } := by
  induction tokens generalizing written with
  | nil => exact ⟨[], .nil, by rw [report, String.join_nil, String.append_empty]⟩
  | cons token rest ih =>
    obtain ⟨line, hline, hof⟩ := exists_tokenLine a token
    obtain ⟨lines, hlines, hrest⟩ := ih (written ++ line)
    refine ⟨line :: lines, .cons hof hlines, ?_⟩
    rw [report_cons hline, hrest, String.join_cons, String.append_assoc]

/-! ## Answers -/

/-- A look-up reports on all tokens or on none.

* Where the file gives an atlas, the program succeeds, and what it writes are the lines of the
  tokens, one for each, in their order.
* Where the file gives none, the program fails, writes nothing but why, and names the path.

The text of what an atlas knows of a token is that of its JSON object, and there always is one. -/
theorem lookup_all_or_nothing [Pattern.SizeCheck] (file : String → Except ReadFailure ByteArray)
    (path : String) (tokens : List String) (hpath : path.toList.head? ≠ some '-')
    (htokens : tokens ≠ []) :
    (∀ a, (Document.ofFile path (file path)).bind Document.load = .ok a →
      ∃ lines, List.Forall₂ (LineOf a) tokens lines ∧
        (Request.ofArgs ("lookup" :: path :: "--" :: tokens)).answer file =
          { code := 0, output := String.join lines, errors := "" }) ∧
    (∀ e, (Document.ofFile path (file path)).bind Document.load = .error e →
      (Request.ofArgs ("lookup" :: path :: "--" :: tokens)).answer file =
        { code := 1, output := "",
          errors := "Error loading " ++ path ++ ": " ++ e.message ++ "\n" }) ∧
    ∀ r : Resolution, r.text = .ok r.toJson.render := by
  rw [ofArgs_lookup hpath htokens]
  unfold Request.answer answerFrom
  refine ⟨fun a ha => ?_, fun e he => ?_, Resolution.text_eq⟩
  · obtain ⟨lines, hlines, hreport⟩ := exists_report a "" tokens
    refine ⟨lines, hlines, ?_⟩
    simp only [ha]
    rw [hreport, String.empty_append]
  · simp only [he]

/-- Behind two hyphens a token may look like an option, be empty and come again; and where there is
    no file the tokens do not count. -/
theorem lookup_all_or_nothing_hyphens :
    let document := "\x7b\"maps\":[[\"macro\",\"m\",\x7b\"-x\":\"X\"\x7d]]\x7d"
    let known := "-x: \x7b\"map\":\"m\",\"kind\":\"macro\",\"entry\":" ++
      "\x7b\"symbol\":\"-x\",\"handler\":\"X\",\"args\":[]\x7d\x7d\n"
    (Request.ofArgs ["lookup", "d.json", "--", "-x", "", "-x"]).answer
        (fun _ => .ok document.toUTF8) =
      { code := 0, output := known ++ ": unrecognized\n" ++ known } ∧
    (Request.ofArgs ["lookup", "absent.json", "--", "--help"]).answer
        (fun _ => .error .missing) =
      { code := 1,
        errors := "Error loading absent.json: " ++
          "IO error: No such file or directory (os error 2)\n" } := by
  intro document known
  constructor
  · let e : MacroEntry := ⟨"-x", "X", []⟩
    let a : Atlas := ⟨[.macros ⟨"m", (Fields.empty : Fields MacroEntry).insert "-x" e⟩], by decide⟩
    have hload : (Document.ofFile "d.json" (.ok document.toUTF8)).bind Document.load = .ok a := by
      cbv
    have hknown : LineOf a "-x" known := by
      have hresolve : a.resolve? "-x" = some ⟨"m", .macroEntry e⟩ := by cbv
      have htext : known =
          "-x" ++ ": " ++ (Resolution.mk "m" (.macroEntry e)).toJson.render ++ "\n" := by
        decide +kernel
      exact htext ▸ .known hresolve (Resolution.text_eq _)
    have hunknown : LineOf a "" ": unrecognized\n" := .unknown (by cbv)
    obtain ⟨lines, hlines, hanswer⟩ := (lookup_all_or_nothing (fun _ => .ok document.toUTF8)
      "d.json" ["-x", "", "-x"] (by decide) (by decide)).1 a hload
    have hfixed : List.Forall₂ (LineOf a) ["-x", "", "-x"] [known, ": unrecognized\n", known] :=
      .cons hknown (.cons hunknown (.cons hknown .nil))
    have hsame : lines = [known, ": unrecognized\n", known] :=
      List.right_unique_forall₂' (rightUnique_lineOf a) hlines hfixed
    rw [hanswer, hsame]
    simp [String.join_cons, String.append_assoc]
  · exact (lookup_all_or_nothing (fun _ => .error .missing) "absent.json" ["--help"] (by decide)
      (by decide)).2.1 (.file .missing) rfl

end TokenAtlas.CommandLine
