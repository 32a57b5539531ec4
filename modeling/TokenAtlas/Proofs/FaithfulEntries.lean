import Mathlib
import TokenAtlas.Proofs.FiniteNumbers
import TokenAtlas.Proofs.Json.FloatTexts
import TokenAtlas.Proofs.Resolution

/-!
# What finite numbers are good for

An infinity or NaN in an entry would do harm in two places.  NaN differs from itself, and so would
the entry.  And neither has a form in JSON, so that null would stand in the text of the entry where
there is no null in the entry itself.  Entries that come from texts have only finite numbers, so
they equal themselves, and their texts show null just where they have it.

Where the arguments stand in a text is said in terms of the grammar: `WrittenAs` relates an entry to
the value that is written, and `Argument.Slot` an argument to what stands in its place.

## Key results

- `Argument.beq_self`, `Argument.exists_slot`: what a single argument owes to being finite
- `CharacterEntry.faithful`, `MacroEntry.faithful`, `Found.faithful`, `Resolution.faithful`: what
  is made of arguments owes it the same
- `entries_of_text_faithful`: all that is stored from a text is faithful
-/

namespace TokenAtlas

open Json

/-! ## Lists -/

/-- A list equals itself if its elements do. -/
theorem list_beq_self {α : Type} [BEq α] {xs : List α} (h : ∀ x ∈ xs, (x == x) = true) :
    (xs == xs) = true := by
  induction xs with
  | nil => rfl
  | cons x rest ih =>
    rw [List.forall_mem_cons] at h
    simp [h.1, ih h.2]

/-- What exists for each element exists for all of them together. -/
theorem exists_forall₂ {α β : Type} {R : β → α → Prop} {xs : List α} (h : ∀ x ∈ xs, ∃ y, R y x) :
    ∃ ys, List.Forall₂ R ys xs := by
  induction xs with
  | nil => exact ⟨[], .nil⟩
  | cons x rest ih =>
    rw [List.forall_mem_cons] at h
    obtain ⟨y, hy⟩ := h.1
    obtain ⟨ys, hys⟩ := ih h.2
    exact ⟨y :: ys, .cons hy hys⟩

/-! ## Arguments -/

namespace Json

/-- A string is printed as itself. -/
theorem renders_string (s : String) : Renders (.string s) (renderChars (.string s)) :=
  .string (spells_renderString s.toList)

/-- No other value has the text of null. -/
theorem Renders.eq_null {w : Written} (h : Renders w ['n', 'u', 'l', 'l']) : w = .null := by
  cases h with
  | null => rfl
  | numeral h =>
    -- A numeral does not begin with a letter.
    obtain ⟨c, r, ht, hne⟩ := Numeral.numeralText_head h
    exact absurd (List.cons.inj ht).1.symm (hne 'n' rfl (by decide))

end Json

namespace Argument

/-- A finite argument equals itself. -/
theorem beq_self {a : Argument} (h : a.IsFinite) : (a == a) = true := by
  cases a with
  | float x =>
    have hlt : x.magnitude < Binary64.infinityMagnitude := of_decide_eq_true h
    have hnan : x.isNaN = false := decide_eq_false (Nat.lt_asymm hlt)
    exact Binary64.numEq_self hnan
  | null => rfl
  | bool b => exact beq_self_eq_true b
  | int n => exact beq_self_eq_true n
  | text s => exact beq_self_eq_true s

/-- What stands in a text in the place of an argument: its own text, which is that of null only for
    the argument that is null. -/
structure Slot (w : Written) (a : Argument) : Prop where
  renders : Renders w (renderChars a.toJson)
  null_iff : w = .null ↔ a = .null
  text_null_iff : a.toJson.render = "null" ↔ a = .null

/-- What stands in an object for a named argument: the name, and the argument under it. -/
def NamedSlot (w : String × Written) (p : String × Argument) : Prop := w.1 = p.1 ∧ Slot w.2 p.2

/-- For the text of a slot it is enough that a value other than null is written there. -/
theorem Slot.of_renders {w : Written} {a : Argument} (h : Renders w (renderChars a.toJson))
    (hw : w ≠ .null) (ha : a ≠ .null) : Slot w a where
  renders := h
  null_iff := iff_of_false hw ha
  text_null_iff := by
    apply iff_of_false _ ha
    intro htext
    have hchars : renderChars a.toJson = ['n', 'u', 'l', 'l'] := String.ofList_inj.1 htext
    rw [hchars] at h
    exact hw h.eq_null

/-- For a finite argument something stands in a text. -/
theorem exists_slot {a : Argument} (h : a.IsFinite) : ∃ w, Slot w a := by
  cases a with
  | null => exact ⟨.null, .null, by simp, by simp [toJson, render, renderChars]⟩
  | bool b =>
    cases b with
    | true => exact ⟨.bool true, .of_renders .true (by simp) (by simp)⟩
    | false => exact ⟨.bool false, .of_renders .false (by simp) (by simp)⟩
  | int n =>
    obtain ⟨m, hm, -⟩ := exists_numeralText n.toInt
    exact ⟨.numeral m, .of_renders (.numeral hm) (by simp) (by simp)⟩
  | float x =>
    -- Only here does it matter that the argument is finite.
    obtain ⟨m, hm⟩ := exists_numeralText_renderFloat h
    exact ⟨.numeral m, .of_renders (.numeral hm) (by simp) (by simp)⟩
  | text s => exact ⟨.string s, .of_renders (renders_string s) (by simp) (by simp)⟩

end Argument

/-! ## Entries of characters -/

namespace CharacterEntry

/-- What is written for attributes: an object with one member for each of them, or null where there
    are no attributes. -/
def AttributesWrittenAs : Option Attributes → Written → Prop
  | none, w => w = .null
  | some fs, w =>
    ∃ slots, List.Forall₂ Argument.NamedSlot slots fs.toList ∧ w = .object slots

/-- What is written for an entry. -/
def WrittenAs (e : CharacterEntry) (w : Written) : Prop :=
  ∃ attributes, AttributesWrittenAs e.attributes attributes ∧
    w = .object [("symbol", .string e.symbol), ("display", .string e.display),
      ("attributes", attributes)]

/-- The attributes of a finite entry are finite. -/
theorem IsFinite.of_mem {e : CharacterEntry} (h : e.IsFinite) {fs : Attributes}
    (hfs : e.attributes = some fs) : ∀ p ∈ fs.toList, p.2.IsFinite := by
  intro p hp
  apply h p.1
  rw [attribute?, hfs]
  exact Fields.mem_toList_iff.1 hp

theorem beq_self {e : CharacterEntry} (h : e.IsFinite) : (e == e) = true := by
  have hattributes : (e.attributes == e.attributes) = true := by
    cases hfs : e.attributes with
    | none => rfl
    | some fs =>
      show (fs.toList == fs.toList) = true
      apply list_beq_self
      intro p hp
      show (p.1 == p.1 && p.2 == p.2) = true
      simp [Argument.beq_self (h.of_mem hfs p hp)]
  show (e.symbol == e.symbol && (e.display == e.display && e.attributes == e.attributes)) = true
  simp [hattributes]

theorem exists_writtenAs {e : CharacterEntry} (h : e.IsFinite) :
    ∃ w, e.WrittenAs w ∧ Renders w (renderChars e.toJson) := by
  -- Only the attributes can be more than strings.
  have hattributes : ∃ w, AttributesWrittenAs e.attributes w ∧
      Renders w (renderChars (attributesToJson e.attributes)) := by
    cases hfs : e.attributes with
    | none => exact ⟨.null, rfl, .null⟩
    | some fs =>
      have hslot : ∀ p ∈ fs.toList, ∃ s, Argument.NamedSlot s p := by
        intro p hp
        obtain ⟨w, hw⟩ := Argument.exists_slot (h.of_mem hfs p hp)
        exact ⟨(p.1, w), rfl, hw⟩
      obtain ⟨slots, hslots⟩ := exists_forall₂ hslot
      refine ⟨.object slots, ⟨slots, hslots, rfl⟩, renders_object ?_⟩
      rw [List.forall₂_map_right_iff]
      exact hslots.imp fun s p hs => ⟨hs.1, hs.2.renders⟩
  obtain ⟨w, hw, htext⟩ := hattributes
  refine ⟨_, ⟨w, hw, rfl⟩, renders_object ?_⟩
  exact .cons ⟨rfl, renders_string _⟩ (.cons ⟨rfl, renders_string _⟩ (.cons ⟨rfl, htext⟩ .nil))

end CharacterEntry

/-! ## Entries of macros -/

namespace MacroEntry

/-- What is written for an entry. -/
def WrittenAs (e : MacroEntry) (w : Written) : Prop :=
  ∃ slots, List.Forall₂ Argument.Slot slots e.args ∧
    w = .object [("symbol", .string e.symbol), ("handler", .string e.handler),
      ("args", .array slots)]

theorem beq_self {e : MacroEntry} (h : e.IsFinite) : (e == e) = true := by
  have hargs : (e.args == e.args) = true := list_beq_self fun a ha => Argument.beq_self (h a ha)
  show (e.symbol == e.symbol && (e.handler == e.handler && e.args == e.args)) = true
  simp [hargs]

theorem exists_writtenAs {e : MacroEntry} (h : e.IsFinite) :
    ∃ w, e.WrittenAs w ∧ Renders w (renderChars e.toJson) := by
  obtain ⟨slots, hslots⟩ := exists_forall₂ fun a ha => Argument.exists_slot (h a ha)
  have htext : Renders (.array slots) (renderChars (.array (e.args.map Argument.toJson))) := by
    apply renders_array
    rw [List.forall₂_map_right_iff]
    exact hslots.imp fun w a hw => hw.renders
  refine ⟨_, ⟨slots, hslots, rfl⟩, renders_object ?_⟩
  exact .cons ⟨rfl, renders_string _⟩ (.cons ⟨rfl, renders_string _⟩ (.cons ⟨rfl, htext⟩ .nil))

end MacroEntry

/-! ## What is found -/

namespace Found

/-- What is written for what a map knows of a token, as members of an object. -/
def MembersWrittenAs : Found → List (String × Written) → Prop
  | .matched, ms => ms = [("kind", .string "matched")]
  | .characterEntry e, ms =>
    ∃ entry, e.WrittenAs entry ∧ ms = [("kind", .string "character"), ("entry", entry)]
  | .macroEntry e, ms =>
    ∃ entry, e.WrittenAs entry ∧ ms = [("kind", .string "macro"), ("entry", entry)]

/-- What is written for what a map knows of a token. -/
def WrittenAs (found : Found) (w : Written) : Prop :=
  ∃ ms, found.MembersWrittenAs ms ∧ w = .object ms

theorem beq_self {found : Found} (h : found.IsFinite) : (found == found) = true := by
  cases found with
  | matched => rfl
  | characterEntry e => exact CharacterEntry.beq_self h
  | macroEntry e => exact MacroEntry.beq_self h

theorem exists_membersWrittenAs {found : Found} (h : found.IsFinite) :
    ∃ ms, found.MembersWrittenAs ms ∧ List.Forall₂ RendersMember ms found.toMembers := by
  cases found with
  | matched => exact ⟨_, rfl, .cons ⟨rfl, renders_string _⟩ .nil⟩
  | characterEntry e =>
    obtain ⟨w, hw, htext⟩ := CharacterEntry.exists_writtenAs h
    exact ⟨_, ⟨w, hw, rfl⟩, .cons ⟨rfl, renders_string _⟩ (.cons ⟨rfl, htext⟩ .nil)⟩
  | macroEntry e =>
    obtain ⟨w, hw, htext⟩ := MacroEntry.exists_writtenAs h
    exact ⟨_, ⟨w, hw, rfl⟩, .cons ⟨rfl, renders_string _⟩ (.cons ⟨rfl, htext⟩ .nil)⟩

end Found

/-- What is written for a resolution. -/
def Resolution.WrittenAs (r : Resolution) (w : Written) : Prop :=
  ∃ ms, r.found.MembersWrittenAs ms ∧ w = .object (("map", .string r.map) :: ms)

/-! ## Faithful things -/

/-- Whether a thing keeps what it was given: its numbers are finite, it equals itself, and its JSON
    text is one of what is written for it. -/
structure Faithful {α : Type} [BEq α] (x : α) (finite : Prop) (writtenAs : Written → Prop)
    (j : Json) : Prop where
  finite : finite
  beq_self : (x == x) = true
  text : ∃ w, writtenAs w ∧ TextOf w j.render

/-- The text of a thing has no blanks around it, so it is enough that its characters are right. -/
theorem faithful_of_renders {α : Type} [BEq α] {x : α} {finite : Prop} {writtenAs : Written → Prop}
    {j : Json} (h : finite) (hbeq : (x == x) = true)
    (htext : ∃ w, writtenAs w ∧ Renders w (renderChars j)) : Faithful x finite writtenAs j where
  finite := h
  beq_self := hbeq
  text := by
    obtain ⟨w, hw, hchars⟩ := htext
    exact ⟨w, hw, textOf_render hchars⟩

theorem CharacterEntry.faithful {e : CharacterEntry} (h : e.IsFinite) :
    Faithful e e.IsFinite e.WrittenAs e.toJson :=
  faithful_of_renders h (beq_self h) (exists_writtenAs h)

theorem MacroEntry.faithful {e : MacroEntry} (h : e.IsFinite) :
    Faithful e e.IsFinite e.WrittenAs e.toJson :=
  faithful_of_renders h (beq_self h) (exists_writtenAs h)

theorem Found.faithful {found : Found} (h : found.IsFinite) :
    Faithful found found.IsFinite found.WrittenAs (.object found.toMembers) := by
  apply faithful_of_renders h (beq_self h)
  obtain ⟨ms, hms, htext⟩ := exists_membersWrittenAs h
  exact ⟨.object ms, ⟨ms, hms, rfl⟩, renders_object htext⟩

theorem Resolution.faithful {r : Resolution} (h : r.found.IsFinite) :
    Faithful r r.found.IsFinite r.WrittenAs r.toJson := by
  have hbeq : (r == r) = true := by
    show (r.map == r.map && r.found == r.found) = true
    simp [Found.beq_self h]
  apply faithful_of_renders h hbeq
  obtain ⟨ms, hms, htext⟩ := Found.exists_membersWrittenAs h
  exact ⟨_, ⟨ms, hms, rfl⟩, renders_object (.cons ⟨rfl, renders_string _⟩ htext)⟩

/-- Whether what is found is faithful, alone and with the name of the map that knows it. -/
def Found.IsFaithful (found : Found) : Prop :=
  Faithful found found.IsFinite found.WrittenAs (.object found.toMembers) ∧
    ∀ map, Faithful (Resolution.mk map found) found.IsFinite (Resolution.mk map found).WrittenAs
      (Resolution.mk map found).toJson

theorem Found.isFaithful {found : Found} (h : found.IsFinite) : found.IsFaithful :=
  ⟨found.faithful h, fun _ => Resolution.faithful h⟩

/-! ## Texts -/

/-- All that is stored from a text is faithful, whatever numbers the text writes and in whatever
    way: the entries of a table that a text configures, what the maps of a document know of a token,
    and what the atlas of a document resolves a token to. -/
theorem entries_of_text_faithful [Pattern.SizeCheck] :
    (∀ (format : DocumentFormat) (name text : String) (t : Table CharacterEntry),
      Table.ofText format name text = .ok t → ∀ token e, t.lookup? token = some e →
        Faithful e e.IsFinite e.WrittenAs e.toJson ∧ (Found.characterEntry e).IsFaithful) ∧
    (∀ (format : DocumentFormat) (name text : String) (t : Table MacroEntry),
      Table.ofText format name text = .ok t → ∀ token e, t.lookup? token = some e →
        Faithful e e.IsFinite e.WrittenAs e.toJson ∧ (Found.macroEntry e).IsFaithful) ∧
    ∀ (doc : Document) (a : Atlas), doc.load = .ok a →
      (∀ m ∈ a.maps, ∀ token found, m.lookup? token = some found → found.IsFaithful) ∧
      ∀ token r, a.resolve? token = some r →
        Faithful r r.found.IsFinite r.WrittenAs r.toJson := by
  refine ⟨?_, ?_, ?_⟩
  · intro format name text t ht token e he
    have hfinite : e.IsFinite :=
      Table.forall_lookup?_of_ofText (fun _ _ _ => CharacterEntry.isFinite_of_ofJson?) ht he
    exact ⟨e.faithful hfinite, Found.isFaithful hfinite⟩
  · intro format name text t ht token e he
    have hfinite : e.IsFinite :=
      Table.forall_lookup?_of_ofText (fun _ _ _ => MacroEntry.isFinite_of_ofJson?) ht he
    exact ⟨e.faithful hfinite, Found.isFaithful hfinite⟩
  · intro doc a ha
    constructor
    · intro m hm token found hfound
      exact Found.isFaithful (Document.isFinite_of_load ha hm hfound)
    · intro token r hr
      -- The answer is that of one of the maps.
      obtain ⟨before, m, after, hmaps, -, hfound, -⟩ := Atlas.resolve?_eq_some_iff.1 hr
      have hm : m ∈ a.maps := by simp [hmaps]
      exact Resolution.faithful (Document.isFinite_of_load ha hm hfound)

/-- What is shown in the end was there after each step. -/
private theorem exists_of_shown {ε α β : Type} {x : Except ε α} {f : α → Option β} {g : β → String}
    {s : String} {P : α → β → Prop} (h : (x.toOption.bind f).map g = some s)
    (hP : ∀ a b, x = .ok a → f a = some b → P a b) :
    ∃ a b, x = .ok a ∧ f a = some b ∧ g b = s ∧ P a b := by
  obtain ⟨b, hbind, hg⟩ := Option.map_eq_some_iff.1 h
  cases x with
  | error e => exact nomatch hbind
  | ok a => exact ⟨a, b, rfl, hbind, hg, hP a b rfl hbind⟩

/-- An exponent that is too small leaves zero, an infinity in YAML leaves null, and a number in YAML
    that is too great is a text.  All of that is stored and shown as it is. -/
theorem entries_of_text_faithful_infinite :
    (∃ (t : Table CharacterEntry) (e : CharacterEntry),
      Table.ofText .json "m" "\x7b\"α\":[\"a\",\x7b\"x\":-1e-400,\"y\":null\x7d]\x7d" = .ok t ∧
      t.lookup? "α" = some e ∧
      e.toJson.render =
        "\x7b\"symbol\":\"α\",\"display\":\"a\",\"attributes\":\x7b\"x\":-0.0,\"y\":null\x7d\x7d" ∧
      Faithful e e.IsFinite e.WrittenAs e.toJson) ∧
    (∃ (t : Table MacroEntry) (e : MacroEntry),
      Table.ofText .yaml "m" "a: [H, .inf, 1.5, -1e400]" = .ok t ∧ t.lookup? "a" = some e ∧
      e.toJson.render =
        "\x7b\"symbol\":\"a\",\"handler\":\"H\",\"args\":[null,1.5,\"-1e400\"]\x7d" ∧
      Faithful e e.IsFinite e.WrittenAs e.toJson) ∧
    ∃ (a : Atlas) (r : Resolution),
      (Document.mk .yaml "maps: [[macro, m, \x7ba: [H, -.inf, 1e5]\x7d]]").load = .ok a ∧
      a.resolve? "a" = some r ∧
      r.toJson.render = "\x7b\"map\":\"m\",\"kind\":\"macro\",\"entry\":" ++
        "\x7b\"symbol\":\"a\",\"handler\":\"H\",\"args\":[null,100000.0]\x7d\x7d" ∧
      Faithful r r.found.IsFinite r.WrittenAs r.toJson := by
  refine ⟨?_, ?_, ?_⟩
  · apply exists_of_shown (by decide +kernel)
    intro t e ht he
    exact (entries_of_text_faithful.1 _ _ _ t ht _ e he).1
  · apply exists_of_shown (by decide +kernel)
    intro t e ht he
    exact (entries_of_text_faithful.2.1 _ _ _ t ht _ e he).1
  · apply exists_of_shown (by decide +kernel)
    intro a r ha hr
    exact (entries_of_text_faithful.2.2 _ a ha).2 _ r hr

end TokenAtlas
