import Mathlib.Data.List.Dedup
import TokenAtlas.Proofs.Settings

/-!
# Runs of additions

Additions are tried one after the other, and some of them are refused.  At every point of such a run
the table shows the list of the insertions that were accepted so far, of which the last one with a
token counts.  A refused addition leaves everything as it was.

## Key results

- `Shows.insert`, `shows_tryAll`: what one accepted insertion and a whole run leave
- `runLaws_of_outcome`: the laws of runs for any kind of entries
- `tryAll_refines_accepted`: the laws for characters and for macros
-/

namespace TokenAtlas

/-! ## What becomes of a descriptor -/

/-- The descriptor of a character always gives an entry. -/
inductive CharacterEntry.Outcome (token : String) :
    String × Option Attributes → Except EntryFault CharacterEntry → Prop
  | accepted (display : String) (attributes : Option Attributes) :
      Outcome token (display, attributes) (.ok { symbol := token, display, attributes })

/-- The descriptor of a macro gives an entry if its first element is there and is a text that is not
    empty; the other elements are the arguments, in their order. -/
inductive MacroEntry.Outcome (token : String) :
    List Argument → Except EntryFault MacroEntry → Prop
  | accepted {handler : String} (h : handler ≠ "") (args : List Argument) :
      Outcome token (.text handler :: args) (.ok { symbol := token, handler, args })
  | emptyDescriptor : Outcome token [] (.error .emptyDescriptor)
  | handlerNotText {a : Argument} (h : a.kind ≠ .string) (args : List Argument) :
      Outcome token (a :: args) (.error (.handlerNotText a.kind))
  | emptyHandler (args : List Argument) : Outcome token (.text "" :: args) (.error .emptyHandler)

theorem CharacterEntry.outcome_iff {token : String} {d : String × Option Attributes}
    {r : Except EntryFault CharacterEntry} : Outcome token d r ↔ TableEntry.make token d = r := by
  constructor
  · rintro ⟨display, attributes⟩
    rfl
  · rintro rfl
    exact .accepted d.1 d.2

theorem MacroEntry.outcome_iff {token : String} {d : List Argument}
    {r : Except EntryFault MacroEntry} : Outcome token d r ↔ TableEntry.make token d = r := by
  constructor
  · intro h
    cases h with
    | accepted h args => exact make?_eq_ok_iff.2 ⟨_, args, h, rfl, rfl⟩
    | emptyDescriptor => rfl
    | emptyHandler args => rfl
    | @handlerNotText a h args =>
      cases a with
      | text s => exact absurd rfl h
      | null | bool | int | float => rfl
  · -- Along the descriptor: whether there is a first argument, whether it is a text, and which.
    rintro rfl
    cases d with
    | nil => exact .emptyDescriptor
    | cons a args =>
      cases a with
      | text handler =>
        by_cases h : handler = ""
        · subst h
          exact .emptyHandler args
        · have hmake : TableEntry.make token (.text handler :: args) =
              .ok ({ symbol := token, handler, args } : MacroEntry) :=
            make?_eq_ok_iff.2 ⟨handler, args, h, rfl, rfl⟩
          rw [hmake]
          exact .accepted h args
      | null | bool | int | float => exact .handlerNotText (by simp [Argument.kind]) args

/-- The insertions that are accepted among calls, in their order. -/
inductive Accepts {δ ε : Type} (Outcome : String → δ → Except EntryFault ε → Prop) :
    List (String × δ) → List (String × ε) → Prop
  | nil : Accepts Outcome [] []
  | accept {token : String} {d : δ} {e : ε} {calls : List (String × δ)}
      {history : List (String × ε)} (hd : Outcome token d (.ok e))
      (hcalls : Accepts Outcome calls history) :
      Accepts Outcome ((token, d) :: calls) ((token, e) :: history)
  | refuse {token : String} {d : δ} {fault : EntryFault} {calls : List (String × δ)}
      {history : List (String × ε)} (hd : Outcome token d (.error fault))
      (hcalls : Accepts Outcome calls history) : Accepts Outcome ((token, d) :: calls) history

/-- What becomes of the calls decides which insertions are accepted. -/
theorem Accepts.unique {δ ε : Type} {Outcome : String → δ → Except EntryFault ε → Prop}
    (hout : ∀ token d, ∃! r, Outcome token d r) {calls : List (String × δ)}
    {xs ys : List (String × ε)} (hx : Accepts Outcome calls xs) (hy : Accepts Outcome calls ys) :
    xs = ys := by
  -- No call can be accepted in one list and refused in the other.
  induction hx generalizing ys with
  | nil =>
    cases hy
    rfl
  | accept hd _ ih =>
    cases hy with
    | accept hd' hcalls => rw [Except.ok.inj ((hout _ _).unique hd hd'), ih hcalls]
    | refuse hd' _ => cases (hout _ _).unique hd hd'
  | refuse hd _ ih =>
    cases hy with
    | accept hd' _ => cases (hout _ _).unique hd hd'
    | refuse _ hcalls => exact ih hcalls

namespace Table

/-! ## What a table shows -/

section

variable {ε : Type}

/-- A table shows what a list of insertions leaves, of which the last one with a token counts. -/
structure Shows (t : Table ε) (name : String) (history : List (String × ε)) : Prop where
  name_eq : t.name = name
  lookup?_eq : ∀ token, t.lookup? token = lastValue? token history
  contains_iff : ∀ token, t.contains token = true ↔ ∃ e, t.lookup? token = some e
  /-- Every token with an insertion is listed, and listed once. -/
  tokens_perm : t.tokens.Perm (history.map (·.1)).dedup
  size_eq : t.size = (history.map (·.1)).dedup.length
  isEmpty_iff : t.isEmpty = true ↔ t.size = 0

/-- The look-ups of a table decide what else it shows. -/
theorem shows_of_lookup? {t : Table ε} {history : List (String × ε)}
    (h : ∀ token, t.lookup? token = lastValue? token history) : t.Shows t.name history := by
  have hcontains : ∀ token, t.contains token = true ↔ ∃ e, t.lookup? token = some e :=
    fun token => by rw [contains_eq_isSome, Option.isSome_iff_exists]
  -- The tokens are those with a look-up, so those with an insertion.
  have hmem : ∀ token, token ∈ t.tokens ↔ token ∈ (history.map (·.1)).dedup := by
    intro token
    rw [mem_tokens_iff, contains_eq_isSome, h token, Option.isSome_iff_ne_none, ne_eq,
      lastValue?_eq_none_iff, List.mem_dedup]
    simp
  have htokens : t.tokens.Perm (history.map (·.1)).dedup :=
    (List.perm_ext_iff_of_nodup t.nodup_tokens (List.nodup_dedup _)).2 hmem
  exact {
    name_eq := rfl
    lookup?_eq := h
    contains_iff := hcontains
    tokens_perm := htokens
    size_eq := by rw [← t.length_tokens, htokens.length_eq]
    isEmpty_iff := t.entries.isEmpty_iff_size_eq_zero }

theorem shows_empty (name : String) : (empty name : Table ε).Shows name [] :=
  shows_of_lookup? fun _ => rfl

/-- One more insertion comes last in the history. -/
theorem Shows.insert {t : Table ε} {name : String} {history : List (String × ε)}
    (h : t.Shows name history) (token : String) (e : ε) :
    (t.insert token e).Shows name (history ++ [(token, e)]) := by
  rw [← h.name_eq, ← name_insert t token e]
  refine shows_of_lookup? fun other => ?_
  rw [lookup?_insert, h.lookup?_eq, lastValue?_append, lastValue?_cons, lastValue?_nil,
    Option.none_or]
  by_cases hother : token = other <;> simp [hother]

end

/-! ## Runs -/

variable {ε σ δ : Type} [TableEntry ε σ δ]

/-- What is left of a table when an addition is tried: a refused one leaves it as it was. -/
def tryAdd (t : Table ε) (call : String × δ) : Table ε :=
  match t.add call.1 call.2 with
  | .ok t' => t'
  | .error _ => t

/-- What is left of a table when additions are tried one after the other. -/
def tryAll (t : Table ε) (calls : List (String × δ)) : Table ε := calls.foldl tryAdd t

theorem tryAll_append (t : Table ε) (xs ys : List (String × δ)) :
    t.tryAll (xs ++ ys) = (t.tryAll xs).tryAll ys :=
  List.foldl_append

theorem add_of_make {t : Table ε} {token : String} {d : δ} {e : ε}
    (h : TableEntry.make token d = .ok e) : t.add token d = .ok (t.insert token e) := by
  rw [add, h]

theorem add_of_fault {t : Table ε} {token : String} {d : δ} {fault : EntryFault}
    (h : (TableEntry.make token d : Except EntryFault ε) = .error fault) :
    t.add token d = .error (.entry t.name token fault) := by
  rw [add, h]

theorem tryAdd_of_make {t : Table ε} {token : String} {d : δ} {e : ε}
    (h : TableEntry.make token d = .ok e) : t.tryAdd (token, d) = t.insert token e := by
  simp only [tryAdd, add_of_make h]

theorem tryAdd_of_fault {t : Table ε} {token : String} {d : δ} {fault : EntryFault}
    (h : (TableEntry.make token d : Except EntryFault ε) = .error fault) :
    t.tryAdd (token, d) = t := by
  simp only [tryAdd, add_of_fault h]

/-- The long forms of settings. -/
def descriptors (ε : Type) {σ δ : Type} [TableEntry ε σ δ] (settings : List (String × σ)) :
    List (String × δ) :=
  settings.map fun p => (p.1, TableEntry.expand ε p.2)

/-- Settings that are all accepted are added by trying them one after the other. -/
theorem tryAll_of_addAll {t t' : Table ε} {settings : List (String × σ)}
    (h : t.addAll settings = .ok t') : t.tryAll (descriptors ε settings) = t' := by
  induction settings generalizing t with
  | nil => exact Except.ok.inj h
  | cons p rest ih =>
    obtain ⟨e, he, hrest⟩ := addAll_cons_eq_ok_iff.1 h
    have hstep : t.tryAdd (p.1, TableEntry.expand ε p.2) = t.insert p.1 e := tryAdd_of_make he
    have hrun : (t.insert p.1 e).tryAll (descriptors ε rest) = t' := ih hrest
    rw [← hrun, ← hstep]
    rfl

section

variable {Outcome : String → δ → Except EntryFault ε → Prop}
  (hout : ∀ {token d r}, Outcome token d r ↔ TableEntry.make token d = r)

include hout

/-- Every call is accepted or refused, so every list of calls has its accepted insertions. -/
theorem exists_accepts (calls : List (String × δ)) : ∃ history, Accepts Outcome calls history := by
  induction calls with
  | nil => exact ⟨[], .nil⟩
  | cons call rest ih =>
    obtain ⟨history, hrest⟩ := ih
    cases hmake : (TableEntry.make call.1 call.2 : Except EntryFault ε) with
    | ok e => exact ⟨(call.1, e) :: history, .accept (hout.2 hmake) hrest⟩
    | error fault => exact ⟨history, .refuse (hout.2 hmake) hrest⟩

/-- A run appends the insertions that it accepts to the history. -/
theorem shows_tryAll {t : Table ε} {name : String} {before history : List (String × ε)}
    {calls : List (String × δ)} (ht : t.Shows name before) (h : Accepts Outcome calls history) :
    (t.tryAll calls).Shows name (before ++ history) := by
  -- On the calls; what was shown before them is the invariant.
  induction h generalizing t before with
  | nil => rwa [List.append_nil]
  | @accept token d e rest history hd _ ih =>
    have hstep : t.tryAll ((token, d) :: rest) = (t.insert token e).tryAll rest := by
      rw [← tryAdd_of_make (hout.1 hd)]
      rfl
    rw [hstep, List.append_cons]
    exact ih (ht.insert token e)
  | @refuse token d fault rest history hd _ ih =>
    have hstep : t.tryAll ((token, d) :: rest) = t.tryAll rest := by
      rw [show t.tryAll ((token, d) :: rest) = (t.tryAdd (token, d)).tryAll rest from rfl,
        tryAdd_of_fault (hout.1 hd)]
    rw [hstep]
    exact ih ht

end

/-- The laws of runs for a kind of entries, given what becomes of its descriptors.  A run begins
    with a table that settings gave, or with one without entries. -/
structure RunLaws (ε : Type) {σ δ : Type} [TableEntry ε σ δ]
    (Outcome : String → δ → Except EntryFault ε → Prop) : Prop where
  /-- A table without entries is the table of no settings. -/
  start (name : String) : ofSettings name ([] : List (String × σ)) = .ok (empty name : Table ε)
  /-- Every descriptor is accepted or refused, and not both. -/
  outcome (token : String) (d : δ) : ∃! r, Outcome token d r
  /-- At every point the table shows the accepted insertions, those of the settings first. -/
  shows {name : String} {settings : List (String × σ)} {t : Table ε}
    (h : ofSettings name settings = .ok t) (calls : List (String × δ)) :
    ∃ history, Accepts Outcome (descriptors ε settings ++ calls) history ∧
      (t.tryAll calls).Shows name history
  /-- An accepted descriptor is added. -/
  accepted {name : String} {settings : List (String × σ)} {t : Table ε}
    (h : ofSettings name settings = .ok t) (calls : List (String × δ)) {token : String} {d : δ}
    {e : ε} (hd : Outcome token d (.ok e)) :
    (t.tryAll calls).add token d = .ok (t.tryAll (calls ++ [(token, d)]))
  /-- A refusal names the map and the token, and leaves the table as it was. -/
  refused {name : String} {settings : List (String × σ)} {t : Table ε}
    (h : ofSettings name settings = .ok t) (calls : List (String × δ)) {token : String} {d : δ}
    {fault : EntryFault} (hd : Outcome token d (.error fault)) :
    (t.tryAll calls).add token d = .error (.entry name token fault) ∧
      t.tryAll (calls ++ [(token, d)]) = t.tryAll calls

/-- The laws hold for every kind of entries whose outcomes are those of `TableEntry.make`. -/
theorem runLaws_of_outcome {Outcome : String → δ → Except EntryFault ε → Prop}
    (hout : ∀ {token d r}, Outcome token d r ↔ TableEntry.make token d = r) :
    RunLaws ε Outcome := by
  have hshows {name : String} {settings : List (String × σ)} {t : Table ε}
      (h : ofSettings name settings = .ok t) (calls : List (String × δ)) :
      ∃ history, Accepts Outcome (descriptors ε settings ++ calls) history ∧
        (t.tryAll calls).Shows name history := by
    -- The settings are the first calls of a run that begins without entries.
    obtain ⟨history, hhistory⟩ := exists_accepts hout (descriptors ε settings ++ calls)
    refine ⟨history, hhistory, ?_⟩
    have hrun := shows_tryAll hout (shows_empty name) hhistory
    rwa [tryAll_append, tryAll_of_addAll h, List.nil_append] at hrun
  refine ⟨fun name => rfl, fun token d => ⟨_, hout.2 rfl, fun r hr => (hout.1 hr).symm⟩, hshows,
    fun h calls token d e hd => ?_, fun h calls token d fault hd => ⟨?_, ?_⟩⟩
  · rw [tryAll_append, add_of_make (hout.1 hd)]
    exact congrArg Except.ok (tryAdd_of_make (hout.1 hd)).symm
  · obtain ⟨_, -, hpoint⟩ := hshows h calls
    rw [add_of_fault (hout.1 hd), hpoint.name_eq]
  · rw [tryAll_append]
    exact tryAdd_of_fault (hout.1 hd)

/-- Tables refine the lists of their accepted insertions over every run, both those of characters
    and those of macros. -/
theorem tryAll_refines_accepted :
    RunLaws CharacterEntry CharacterEntry.Outcome ∧ RunLaws MacroEntry MacroEntry.Outcome :=
  ⟨runLaws_of_outcome CharacterEntry.outcome_iff, runLaws_of_outcome MacroEntry.outcome_iff⟩

/-- A second insertion for a token takes the place of the first, and the refusals around it leave no
    trace. -/
theorem tryAll_refines_accepted_overwrite :
    let t : Table MacroEntry := (empty "m").tryAll
      [("a", [.text "F"]), ("a", []), ("a", [.text "G", .null]), ("b", [.bool true])]
    t.lookup? "a" = some { symbol := "a", handler := "G", args := [.null] } ∧ t.size = 1 := by
  intro t
  obtain ⟨history, hhistory, hshows⟩ := tryAll_refines_accepted.2.shows
    (tryAll_refines_accepted.2.start "m")
    [("a", [.text "F"]), ("a", []), ("a", [.text "G", .null]), ("b", [.bool true])]
  have haccepts : Accepts MacroEntry.Outcome
      [("a", [.text "F"]), ("a", []), ("a", [.text "G", .null]), ("b", [.bool true])]
      [("a", ⟨"a", "F", []⟩), ("a", ⟨"a", "G", [.null]⟩)] :=
    .accept (.accepted (by decide) []) (.refuse .emptyDescriptor
      (.accept (.accepted (by decide) [.null]) (.refuse (.handlerNotText (by decide) []) .nil)))
  obtain rfl := hhistory.unique tryAll_refines_accepted.2.outcome haccepts
  exact ⟨hshows.lookup?_eq "a", hshows.size_eq⟩

end Table

end TokenAtlas
