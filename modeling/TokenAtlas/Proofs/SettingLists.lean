import TokenAtlas.Proofs.BlockFaults
import TokenAtlas.Proofs.TableRuns

/-!
# Tables from lists of settings

A list of settings gives a table or an error, and nothing in between.  It gives a table just when
every setting of it can be added, also one that a later setting for the same token would replace;
otherwise the first that cannot be added decides the error.  What the table holds for a token is
decided by the last setting for that token alone.  So a list may be cut into two tables of which the
second counts first, and settings for different tokens may change places.

## Key results

- `ofSettings_eq_error_iff`, `lookup?_ofSettings_iff`: what a list of settings gives
- `lookup?_ofSettings_append`: what two lists of settings give one after the other
- `Reorders.lastValue?_eq`: a reordering that keeps the order for each token keeps the last values
- `ofSettings_laws`: the laws of lists of settings, for characters and for macros
-/

namespace TokenAtlas

/-! ## Reorderings -/

/-- A reordering of pairs in which the pairs with one token keep their order. -/
structure Reorders {α : Type} (xs ys : List (String × α)) : Prop where
  perm : xs.Perm ys
  keeps : ∀ token, xs.filter (·.1 == token) = ys.filter (·.1 == token)

/-- Only the pairs with a name count for its last value. -/
theorem lastValue?_filter {α : Type} (name : String) (pairs : List (String × α)) :
    lastValue? name (pairs.filter (·.1 == name)) = lastValue? name pairs := by
  induction pairs with
  | nil => rfl
  | cons p rest ih =>
    by_cases h : p.1 = name
    · rw [List.filter_cons_of_pos (by simpa using h), lastValue?_cons, lastValue?_cons, ih]
    · rw [List.filter_cons_of_neg (by simpa using h), lastValue?_cons, ih, if_neg h, Option.or_none]

theorem Reorders.lastValue?_eq {α : Type} {xs ys : List (String × α)} (h : Reorders xs ys)
    (token : String) : lastValue? token xs = lastValue? token ys := by
  rw [← lastValue?_filter, h.keeps token, lastValue?_filter]

/-- The last value of a name stands in a pair after which no other has that name. -/
theorem lastValue?_eq_some_iff {α : Type} {name : String} {v : α} {pairs : List (String × α)} :
    lastValue? name pairs = some v ↔
      ∃ before after, pairs = before ++ (name, v) :: after ∧ ∀ p ∈ after, p.1 ≠ name := by
  constructor
  · intro h
    induction pairs with
    | nil => exact nomatch h
    | cons p rest ih =>
      rw [lastValue?_cons] at h
      -- A later value for the name comes before the one of this pair.
      cases hrest : lastValue? name rest with
      | some w =>
        obtain rfl : w = v := by simpa [hrest] using h
        obtain ⟨before, after, rfl, hafter⟩ := ih hrest
        exact ⟨p :: before, after, rfl, hafter⟩
      | none =>
        rw [hrest, Option.none_or] at h
        split at h
        · rename_i hname
          obtain rfl := Option.some.inj h
          exact ⟨[], rest, by rw [← hname]; rfl, lastValue?_eq_none_iff.1 hrest⟩
        · exact nomatch h
  · rintro ⟨before, after, rfl, hafter⟩
    rw [lastValue?_append, lastValue?_cons, lastValue?_eq_none_iff.2 hafter, if_pos rfl]
    rfl

namespace Table

variable {ε σ δ : Type} [TableEntry ε σ δ] {name : String} {b b₁ b₂ : List (String × σ)}
  {t : Table ε}

/-! ## When a list of settings gives a table -/

variable (ε) in
/-- A setting that is fit for an entry of its token. -/
def Fits (p : String × σ) : Prop :=
  ∃ e : ε, TableEntry.make p.1 (TableEntry.expand ε p.2) = .ok e

theorem makeFails_eq_false_iff {p : String × σ} : makeFails ε p = false ↔ Fits ε p := by
  unfold makeFails Fits
  cases (TableEntry.make p.1 (TableEntry.expand ε p.2) : Except EntryFault ε) <;>
    simp [Except.isOk, Except.toBool]

/-- The first setting that is not fit decides the error. -/
theorem ofSettings_eq_error_iff {e : BuildError} :
    (ofSettings name b : Except BuildError (Table ε)) = .error e ↔
      ∃ before token setting fault after, b = before ++ (token, setting) :: after ∧
        (∀ p ∈ before, Fits ε p) ∧
        (TableEntry.make token (TableEntry.expand ε setting) : Except EntryFault ε) =
          .error fault ∧ e = .entry name token fault := by
  rw [ofSettings, addAll_eq_error_iff]
  -- What is found first has only fit settings before it.
  constructor
  · rintro ⟨token, setting, fault, hfind, hmake, rfl⟩
    obtain ⟨-, before, after, rfl, hbefore⟩ := List.find?_eq_some_iff_append.1 hfind
    refine ⟨before, token, setting, fault, after, rfl, fun p hp => ?_, hmake, rfl⟩
    exact makeFails_eq_false_iff.1 (by simpa using hbefore p hp)
  · rintro ⟨before, token, setting, fault, after, rfl, hbefore, hmake, rfl⟩
    refine ⟨token, setting, fault, ?_, hmake, rfl⟩
    refine List.find?_eq_some_iff_append.2
      ⟨makeFails_iff.2 ⟨fault, hmake⟩, before, after, rfl, fun p hp => ?_⟩
    rw [makeFails_eq_false_iff.2 (hbefore p hp)]
    rfl

/-- All settings must be fit, whether or not later ones replace them. -/
theorem exists_ofSettings_iff :
    (∃ t : Table ε, ofSettings name b = .ok t) ↔ ∀ p ∈ b, Fits ε p := by
  constructor
  · rintro ⟨t, ht⟩ p hp
    by_contra hnot
    -- Then some setting is the first that is not fit, and there is an error.
    have hfails : makeFails ε p = true := by
      rw [← Bool.not_eq_false, makeFails_eq_false_iff]
      exact hnot
    obtain ⟨q, hq⟩ := Option.isSome_iff_exists.1 (List.find?_isSome.2 ⟨p, hp, hfails⟩)
    obtain ⟨fault, hfault⟩ := makeFails_iff.1 (List.find?_some hq)
    have herror := addAll_eq_error_iff (t := empty name) |>.2 ⟨q.1, q.2, fault, hq, hfault, rfl⟩
    exact nomatch herror.symm.trans ht
  · exact exists_addAll

/-! ## What the table holds -/

/-- A token has the entry of its last setting. -/
theorem lookup?_ofSettings_iff (h : ofSettings name b = .ok t) (token : String) (e : ε) :
    t.lookup? token = some e ↔ ∃ setting, lastValue? token b = some setting ∧
      TableEntry.make token (TableEntry.expand ε setting) = .ok e := by
  rcases lookup?_of_addAll h token with ⟨hlast, hlookup⟩ | ⟨setting, e', hlast, hmake, hlookup⟩
  · simp [hlast, hlookup]
  · simp [hlast, hlookup, hmake]

theorem lookup?_ofSettings_eq_none_iff (h : ofSettings name b = .ok t) (token : String) :
    t.lookup? token = none ↔ lastValue? token b = none := by
  rcases lookup?_of_addAll h token with ⟨hlast, hlookup⟩ | ⟨setting, e', hlast, -, hlookup⟩
  · simp [hlast, hlookup]
  · simp [hlast, hlookup]

/-- Tables of lists with the same last settings hold the same. -/
theorem lookup?_ofSettings_congr {b' : List (String × σ)} {t' : Table ε}
    (h : ofSettings name b = .ok t) (h' : ofSettings name b' = .ok t') {token : String}
    (hlast : lastValue? token b' = lastValue? token b) : t'.lookup? token = t.lookup? token := by
  refine Option.ext fun e => ?_
  rw [lookup?_ofSettings_iff h, lookup?_ofSettings_iff h', hlast]

/-- Of two lists the second counts first. -/
theorem lookup?_ofSettings_append (h : ofSettings name (b₁ ++ b₂) = .ok t) :
    ∃ t₁ t₂ : Table ε, ofSettings name b₁ = .ok t₁ ∧ ofSettings name b₂ = .ok t₂ ∧
      ∀ token, t.lookup? token =
        if t₂.contains token then t₂.lookup? token else t₁.lookup? token := by
  have hfit := exists_ofSettings_iff.1 ⟨t, h⟩
  have hexists₁ : ∃ t₁ : Table ε, ofSettings name b₁ = .ok t₁ :=
    exists_ofSettings_iff.2 fun p hp => hfit p (List.mem_append_left b₂ hp)
  have hexists₂ : ∃ t₂ : Table ε, ofSettings name b₂ = .ok t₂ :=
    exists_ofSettings_iff.2 fun p hp => hfit p (List.mem_append_right b₁ hp)
  obtain ⟨t₁, h₁⟩ := hexists₁
  obtain ⟨t₂, h₂⟩ := hexists₂
  refine ⟨t₁, t₂, h₁, h₂, fun token => ?_⟩
  rw [contains_eq_isSome]
  -- Either the second list has a last setting for the token, or that of the first is the last.
  cases hlast : lastValue? token b₂ with
  | none =>
    rw [(lookup?_ofSettings_eq_none_iff h₂ token).2 hlast, Option.isSome_none, if_neg nofun]
    refine lookup?_ofSettings_congr h₁ h ?_
    rw [lastValue?_append, hlast, Option.none_or]
  | some setting =>
    have hsome : (t₂.lookup? token).isSome := by
      rw [Option.isSome_iff_ne_none, ne_eq, lookup?_ofSettings_eq_none_iff h₂, hlast]
      exact Option.some_ne_none setting
    rw [if_pos hsome]
    refine lookup?_ofSettings_congr h₂ h ?_
    rw [lastValue?_append, hlast, Option.some_or]

/-- The look-ups of a table decide how many tokens it has. -/
theorem size_eq_of_lookup? {t' : Table ε} (h : ∀ token, t'.lookup? token = t.lookup? token) :
    t'.size = t.size :=
  congrArg Fields.size (Fields.ext_get? h)

/-! ## The laws -/

/-- The laws of lists of settings for a kind of entries, given what becomes of its descriptors. -/
structure ListLaws (ε : Type) {σ δ : Type} [TableEntry ε σ δ]
    (Outcome : String → δ → Except EntryFault ε → Prop) : Prop where
  /-- A descriptor is accepted by every table or by none. -/
  accepts_iff (t : Table ε) (token : String) (d : δ) :
    (∃ t', t.add token d = .ok t') ↔ ∃ e, Outcome token d (.ok e)
  /-- There is a table just when every setting is accepted. -/
  exists_iff (name : String) (b : List (String × σ)) :
    (∃ t : Table ε, ofSettings name b = .ok t) ↔
      ∀ p ∈ b, ∃ e, Outcome p.1 (TableEntry.expand ε p.2) (.ok e)
  /-- The error is the refusal of the first setting that is not accepted. -/
  error_iff (name : String) (b : List (String × σ)) (e : BuildError) :
    (ofSettings name b : Except BuildError (Table ε)) = .error e ↔
      ∃ before token setting fault after, b = before ++ (token, setting) :: after ∧
        (∀ p ∈ before, ∃ e, Outcome p.1 (TableEntry.expand ε p.2) (.ok e)) ∧
        Outcome token (TableEntry.expand ε setting) (.error fault) ∧ e = .entry name token fault
  /-- A token has the entry of the last setting for it. -/
  lookup?_iff {name : String} {b : List (String × σ)} {t : Table ε}
    (h : ofSettings name b = .ok t) (token : String) (e : ε) :
    t.lookup? token = some e ↔ ∃ before setting after,
      b = before ++ (token, setting) :: after ∧ (∀ p ∈ after, p.1 ≠ token) ∧
        Outcome token (TableEntry.expand ε setting) (.ok e)
  /-- Of the tables of two parts, the one of the second part counts first. -/
  lookup?_append {name : String} {b₁ b₂ : List (String × σ)} {t : Table ε}
    (h : ofSettings name (b₁ ++ b₂) = .ok t) :
    ∃ t₁ t₂ : Table ε, ofSettings name b₁ = .ok t₁ ∧ ofSettings name b₂ = .ok t₂ ∧
      ∀ token, t.lookup? token =
        if t₂.contains token then t₂.lookup? token else t₁.lookup? token
  /-- Settings for different tokens may change places, in lists that are accepted and in others. -/
  reorder {name : String} {b b' : List (String × σ)} (h : Reorders b' b) :
    ((∃ t' : Table ε, ofSettings name b' = .ok t') ↔ ∃ t : Table ε, ofSettings name b = .ok t) ∧
      ∀ t t' : Table ε, ofSettings name b = .ok t → ofSettings name b' = .ok t' →
        t'.size = t.size ∧ ∀ token, t'.lookup? token = t.lookup? token

/-- The laws hold for every kind of entries whose outcomes are those of `TableEntry.make`. -/
theorem listLaws_of_outcome {Outcome : String → δ → Except EntryFault ε → Prop}
    (hout : ∀ {token d r}, Outcome token d r ↔ TableEntry.make token d = r) :
    ListLaws ε Outcome where
  accepts_iff t token d := by
    simp only [add_eq_ok_iff, hout]
    exact ⟨fun ⟨_, e, he, _⟩ => ⟨e, he⟩, fun ⟨e, he⟩ => ⟨_, e, he, rfl⟩⟩
  exists_iff name b := by
    simp only [hout]
    exact exists_ofSettings_iff
  error_iff name b e := by
    simp only [hout]
    exact ofSettings_eq_error_iff
  lookup?_iff h token e := by
    simp only [hout, lookup?_ofSettings_iff h, lastValue?_eq_some_iff]
    constructor
    · rintro ⟨setting, ⟨before, after, hb, hafter⟩, hmake⟩
      exact ⟨before, setting, after, hb, hafter, hmake⟩
    · rintro ⟨before, setting, after, hb, hafter, hmake⟩
      exact ⟨setting, ⟨before, after, hb, hafter⟩, hmake⟩
  lookup?_append h := lookup?_ofSettings_append h
  reorder {name b b'} h := by
    constructor
    · simp only [exists_ofSettings_iff, h.perm.mem_iff]
    · intro t t' ht ht'
      have hlookup : ∀ token, t'.lookup? token = t.lookup? token := fun token =>
        lookup?_ofSettings_congr ht ht' (h.lastValue?_eq token)
      exact ⟨size_eq_of_lookup? hlookup, hlookup⟩

/-- Lists of settings give a table or the refusal of their first bad setting; the last setting for a
    token counts, and otherwise their order does not.  This holds for characters and for macros. -/
theorem ofSettings_laws :
    ListLaws CharacterEntry CharacterEntry.Outcome ∧ ListLaws MacroEntry MacroEntry.Outcome :=
  ⟨listLaws_of_outcome CharacterEntry.outcome_iff, listLaws_of_outcome MacroEntry.outcome_iff⟩

/-- A handler that a later setting would replace must be good nevertheless, and settings for other
    tokens may come before or after it. -/
theorem ofSettings_laws_replaced :
    (ofSettings "m" [("a", .shorthand "F"), ("b", .shorthand ""), ("b", .shorthand "G")] :
      Except BuildError (Table MacroEntry)) = .error (.entry "m" "b" .emptyHandler) ∧
    ∃ t : Table MacroEntry,
      ofSettings "m" [("b", .shorthand "F"), ("b", .shorthand "G"), ("a", .sequence [.text "H"])] =
        .ok t ∧ t.size = 2 ∧ t.lookup? "b" = some { symbol := "b", handler := "G", args := [] } := by
  have hlaws := ofSettings_laws.2
  have haccepted {token handler : String} (h : handler ≠ "") :
      ∃ e, MacroEntry.Outcome token [.text handler] (.ok e) := ⟨_, .accepted h []⟩
  refine ⟨(hlaws.error_iff _ _ _).2 ⟨[("a", .shorthand "F")], "b", .shorthand "", .emptyHandler,
    [("b", .shorthand "G")], rfl, List.forall_mem_singleton.2 (haccepted (by decide)),
    .emptyHandler [], rfl⟩, ?_⟩
  -- The list with `a` in between gives the same table.
  obtain ⟨t', ht'⟩ := (hlaws.exists_iff "m"
    [("b", .shorthand "F"), ("a", .sequence [.text "H"]), ("b", .shorthand "G")]).2
    (by simp [TableEntry.expand, MacroSetting.expand, haccepted])
  have hreorders : Reorders
      [("b", MacroSetting.shorthand "F"), ("b", .shorthand "G"), ("a", .sequence [.text "H"])]
      [("b", .shorthand "F"), ("a", .sequence [.text "H"]), ("b", .shorthand "G")] := by
    refine ⟨.cons _ (.swap _ _ _), fun token => ?_⟩
    by_cases ha : "a" = token
    · subst ha
      rfl
    · by_cases hb : "b" = token <;> simp [ha, hb]
  obtain ⟨t, ht⟩ := (hlaws.reorder hreorders).1.2 ⟨t', ht'⟩
  obtain ⟨hsize, -⟩ := (hlaws.reorder hreorders).2 t' t ht' ht
  refine ⟨t, ht, hsize.trans ?_, ?_⟩
  · obtain rfl := Except.ok.inj ht'
    rfl
  · exact (hlaws.lookup?_iff ht "b" _).2 ⟨[("b", .shorthand "F")], .shorthand "G",
      [("a", .sequence [.text "H"])], rfl, by simp, .accepted (by decide) []⟩

end Table

end TokenAtlas
