import Mathlib
import TokenAtlas.Atlas
import TokenAtlas.BlockText
import TokenAtlas.Proofs.TableRuns

/-!
# Resolving tokens

An atlas that was put together from maps, some of which may have been refused, answers for every
token what the first map that knows the token says of it.  The answer names that map, and it is of
the kind of that map.  An entry in an answer belongs to the token that was asked for, and the
handler of a macro is never empty, since no table comes to hold an entry in another way than by an
addition.

## Key results

- `Table.Made.grounded`: every entry of a table was made for its token
- `Atlas.Reached.built`: the maps of an atlas are those that were pushed
- `Atlas.resolve?_traceable`: what an atlas answers, and for which tokens it has an answer
-/

namespace TokenAtlas

/-! ## Tables -/

namespace Table

variable {ε σ δ : Type} [TableEntry ε σ δ]

/-- The ways in which tables come to be: by any of the constructors, and by additions to a table, of
    which some may be refused. -/
inductive Made : Table ε → Prop
  | empty (name : String) : Made (empty name)
  | ofSettings {name : String} {settings : List (String × σ)} {t : Table ε}
      (h : ofSettings name settings = .ok t) : Made t
  | ofBlock {name : String} {b : Block} {t : Table ε} (h : ofBlock name b = .ok t) : Made t
  | ofText {format : DocumentFormat} {name text : String} {t : Table ε}
      (h : ofText format name text = .ok t) : Made t
  | tryAdd {t : Table ε} (h : Made t) (call : String × δ) : Made (t.tryAdd call)

theorem Made.tryAll {t : Table ε} (h : t.Made) (calls : List (String × δ)) :
    (t.tryAll calls).Made := by
  induction calls generalizing t with
  | nil => exact h
  | cons call rest ih => exact ih (h.tryAdd call)

/-- Every entry of a table was made for the token that it stands under. -/
def Grounded (t : Table ε) : Prop :=
  ∀ token e, t.lookup? token = some e → ∃ d : δ, TableEntry.make token d = .ok e

theorem grounded_empty (name : String) : (empty name : Table ε).Grounded :=
  fun _ _ h => nomatch h

theorem Grounded.insert {t : Table ε} (ht : t.Grounded) {token : String} {d : δ} {e : ε}
    (h : TableEntry.make token d = .ok e) : (t.insert token e).Grounded := by
  intro other e' hlookup
  rw [lookup?_insert] at hlookup
  by_cases hother : token = other
  · rw [if_pos hother] at hlookup
    obtain rfl := Option.some.inj hlookup
    exact ⟨d, hother ▸ h⟩
  · rw [if_neg hother] at hlookup
    exact ht other e' hlookup

/-- A refused addition changes nothing, and an accepted one inserts an entry that was made. -/
theorem Grounded.tryAdd {t : Table ε} (ht : t.Grounded) (call : String × δ) :
    (t.tryAdd call).Grounded := by
  obtain ⟨token, d⟩ := call
  cases hmake : (TableEntry.make token d : Except EntryFault ε) with
  | ok e =>
    rw [tryAdd_of_make hmake]
    exact ht.insert hmake
  | error fault =>
    rw [tryAdd_of_fault hmake]
    exact ht

theorem Grounded.tryAll {t : Table ε} (ht : t.Grounded) (calls : List (String × δ)) :
    (t.tryAll calls).Grounded := by
  induction calls generalizing t with
  | nil => exact ht
  | cons call rest ih => exact ih (ht.tryAdd call)

theorem grounded_of_ofSettings {name : String} {settings : List (String × σ)} {t : Table ε}
    (h : ofSettings name settings = .ok t) : t.Grounded := by
  rw [← tryAll_of_addAll h]
  exact (grounded_empty name).tryAll _

theorem grounded_of_ofBlock {name : String} {b : Block} {t : Table ε}
    (h : ofBlock name b = .ok t) : t.Grounded := by
  obtain ⟨settings, -, hadd⟩ := ofBlock_eq_ok_iff.1 h
  exact grounded_of_ofSettings hadd

/-- In whichever way a table came to be, its entries were made for their tokens. -/
theorem Made.grounded {t : Table ε} (h : t.Made) : t.Grounded := by
  induction h with
  | empty name => exact grounded_empty name
  | ofSettings h => exact grounded_of_ofSettings h
  | ofBlock h => exact grounded_of_ofBlock h
  | ofText h =>
    obtain ⟨b, -, hb⟩ := ofText_eq_ok_iff.1 h
    exact grounded_of_ofBlock hb
  | tryAdd _ call ih => exact ih.tryAdd call

end Table

/-! ## Maps -/

namespace TokenMap

/-- The maps that an atlas may be given: recognizers, and tables as they come to be. -/
inductive Built : TokenMap → Prop
  | patterns (m : Recognizer) : Built (.patterns m)
  | characters {t : Table CharacterEntry} (h : t.Made) : Built (.characters t)
  | macros {t : Table MacroEntry} (h : t.Made) : Built (.macros t)

end TokenMap

/-- What a map of a kind may say of a token: a match is said by patterns alone, an entry stands in a
    table of its kind and belongs to the token, and the handler of a macro is not empty. -/
def Found.Fits (kind : MapKind) (token : String) : Found → Prop
  | .matched => kind = .patterns
  | .characterEntry e => kind = .characters ∧ e.symbol = token
  | .macroEntry e => kind = .macros ∧ e.symbol = token ∧ e.handler ≠ ""

/-- What a map says of a token fits its kind and the token. -/
theorem TokenMap.Built.fits {m : TokenMap} (h : m.Built) {token : String} {found : Found}
    (hfound : m.lookup? token = some found) : found.Fits m.kind token := by
  cases h with
  | patterns m =>
    simp only [lookup?] at hfound
    split at hfound
    · obtain rfl := Option.some.inj hfound
      exact rfl
    · cases hfound
  | characters ht =>
    obtain ⟨e, he, rfl⟩ := Option.map_eq_some_iff.1 hfound
    obtain ⟨d, hd⟩ := ht.grounded token e he
    obtain rfl := Except.ok.inj hd
    exact ⟨rfl, rfl⟩
  | macros ht =>
    -- The entry was made for this token, and none is made with an empty handler.
    obtain ⟨e, he, rfl⟩ := Option.map_eq_some_iff.1 hfound
    obtain ⟨d, hd⟩ := ht.grounded token e he
    obtain ⟨handler, args, hhandler, -, rfl⟩ := MacroEntry.make?_eq_ok_iff.1 hd
    exact ⟨rfl, rfl, hhandler⟩

/-! ## Atlases -/

namespace Atlas

/-- What is left of an atlas when a map is pushed: a refused one leaves it as it was. -/
def tryPush (a : Atlas) (m : TokenMap) : Atlas :=
  match a.push m with
  | .ok b => b
  | .error _ => a

/-- The atlases that pushing maps leads to. -/
inductive Reached : Atlas → Prop
  | empty : Reached empty
  | tryPush {a : Atlas} (h : Reached a) {m : TokenMap} (hm : m.Built) : Reached (a.tryPush m)

theorem mem_maps_tryPush {a : Atlas} {m m' : TokenMap} (h : m' ∈ (a.tryPush m).maps) :
    m' ∈ a.maps ∨ m' = m := by
  unfold tryPush at h
  split at h
  · rename_i b hb
    rw [(push_eq_ok_iff.1 hb).2] at h
    simpa using h
  · exact .inl h

/-- The maps of an atlas are such as may be pushed. -/
theorem Reached.built {a : Atlas} (h : a.Reached) : ∀ m ∈ a.maps, m.Built := by
  induction h with
  | empty => exact fun _ hm => nomatch hm
  | tryPush _ hm ih =>
    intro m' hm'
    rcases mem_maps_tryPush hm' with hm' | rfl
    · exact ih m' hm'
    · exact hm

/-- No name is repeated, so a map is found under its name. -/
theorem get?_eq_some_of_mem {a : Atlas} {m : TokenMap} (h : m ∈ a.maps) :
    a.get? m.name = some m := by
  obtain ⟨before, after, hmaps⟩ := List.append_of_mem h
  have hnodup := a.nodup
  rw [hmaps, List.map_append, List.map_cons, List.nodup_append] at hnodup
  have hbefore : ∀ m' ∈ before, m'.name ≠ m.name := fun m' hm' =>
    hnodup.2.2 m'.name (List.mem_map_of_mem hm') m.name (by simp)
  rw [get?, hmaps, List.find?_append, List.find?_cons_of_pos (by simp)]
  rw [List.find?_eq_none.2 fun m' hm' => by simpa using hbefore m' hm']
  rfl

/-- The first map that knows a token gives the answer. -/
theorem resolve?_eq_some_iff {a : Atlas} {token : String} {r : Resolution} :
    a.resolve? token = some r ↔ ∃ before m after, a.maps = before ++ m :: after ∧
      m.name = r.map ∧ m.lookup? token = some r.found ∧
      ∀ m' ∈ before, m'.contains token = false := by
  -- What it means for one map to give no answer, and to give this one.
  have hnone (m' : TokenMap) : m'.contains token = false ↔
      ((m'.lookup? token).map fun found => (⟨m'.name, found⟩ : Resolution)) = none := by
    rw [TokenMap.contains_eq_isSome, Option.map_eq_none_iff, Option.isSome_eq_false_iff,
      Option.isNone_iff_eq_none]
  have hsome (m : TokenMap) :
      ((m.lookup? token).map fun found => (⟨m.name, found⟩ : Resolution)) = some r ↔
        m.name = r.map ∧ m.lookup? token = some r.found := by
    obtain ⟨map, found⟩ := r
    cases m.lookup? token <;> simp
  simp only [resolve?, List.findSome?_eq_some_iff, hsome, hnone, and_assoc]

/-- What an atlas answers, however it was put together.

* It knows just the tokens for which it has an answer, and these are the tokens that any of its maps
  knows.
* An answer names a map of the atlas under which that very map is found.  That map says what the
  answer says, no map before it knows the token, and what it says fits its kind and the token. -/
theorem resolve?_traceable {a : Atlas} (ha : a.Reached) (token : String) :
    (a.contains token = true ↔ ∃ r, a.resolve? token = some r) ∧
    ((∃ r, a.resolve? token = some r) ↔ ∃ m ∈ a.maps, m.contains token = true) ∧
    ∀ r, a.resolve? token = some r → ∃ before m after, a.maps = before ++ m :: after ∧
      a.get? r.map = some m ∧ m.lookup? token = some r.found ∧
      (∀ m' ∈ before, m'.contains token = false) ∧ r.found.Fits m.kind token := by
  have hcontains : a.contains token = true ↔ ∃ r, a.resolve? token = some r := by
    rw [contains_eq_isSome, Option.isSome_iff_exists]
  refine ⟨hcontains, ?_, fun r hr => ?_⟩
  · rw [← hcontains, contains, List.any_eq_true]
  · obtain ⟨before, m, after, hmaps, hname, hfound, hbefore⟩ := resolve?_eq_some_iff.1 hr
    have hm : m ∈ a.maps := hmaps ▸ List.mem_append_cons_self
    exact ⟨before, m, after, hmaps, hname ▸ get?_eq_some_of_mem hm, hfound, hbefore,
      (ha.built m hm).fits hfound⟩

/-- A refused addition, an overwritten entry and a refused map leave no trace, and a map that stands
    later is not asked. -/
theorem resolve?_traceable_first_map :
    let t : Table MacroEntry :=
      (Table.empty "m").tryAll [("x", [.text "F"]), ("x", [.int 1]), ("x", [.text "G", .null])]
    let a := (((empty.tryPush (.patterns .digit)).tryPush (.macros t)).tryPush
      (.characters (Table.empty "m"))).tryPush (.patterns .letter)
    a.names = ["digit", "m", "letter"] ∧ a.contains "x" = true ∧
      ∃ e : MacroEntry, a.resolve? "x" = some ⟨"m", .macroEntry e⟩ ∧ e.symbol = "x" ∧
        e.handler ≠ "" := by
  intro t a
  have ht : t.Made := (Table.Made.empty "m").tryAll _
  have ha : a.Reached := (((Reached.empty.tryPush (.patterns _)).tryPush (.macros ht)).tryPush
    (.characters (.empty "m"))).tryPush (.patterns _)
  have hanswer : a.resolve? "x" = some ⟨"m", .macroEntry ⟨"x", "G", [.null]⟩⟩ := by cbv
  obtain ⟨hcontains, -, htrace⟩ := resolve?_traceable ha "x"
  obtain ⟨_, _, _, _, -, -, -, -, hsymbol, hhandler⟩ := htrace _ hanswer
  exact ⟨by cbv, hcontains.2 ⟨_, hanswer⟩, _, hanswer, hsymbol, hhandler⟩

end Atlas

end TokenAtlas
