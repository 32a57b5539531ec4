import Mathlib
import TokenAtlas.DocumentFormat

/-!
# The format that a path tells

The format of a file follows from the last component of its path alone.  `LastComponent` takes a
path apart around that component: what leads up to it, the component, and what is left after it,
which is slashes and single dots and names nothing.  The component is one of a JSON file when it
ends in a dot and the letters `json` in any case, with something in front of the dot.

## Key results

- `idle_or_exists_endsIn`: a path has a last component, or there is nothing in it
- `getLast?_components_eq_some_iff`: the last component is the one that is read
- `extension?_eq_some_iff`: the extension is what follows the last dot
- `ofPath_last_component_alone`: which paths tell JSON, and what may be changed around the last
  component
-/

namespace TokenAtlas.DocumentFormat

/-! ## Paths -/

/-- What may follow the last component of a path: slashes, each with at most one dot after it. -/
inductive Idle : List Char → Prop
  | nil : Idle []
  | slash {rest : List Char} (h : Idle rest) : Idle ('/' :: rest)
  | dot {rest : List Char} (h : Idle rest) : Idle ('/' :: '.' :: rest)

/-- What stands in a path before its last component, the component, and what is left after it. -/
structure LastComponent (path dir name tail : List Char) : Prop where
  path_eq : path = dir ++ name ++ tail
  /-- The component begins the path or follows a slash. -/
  dir_ends : dir = [] ∨ ∃ parents, dir = parents ++ ['/']
  name_ne_nil : name ≠ []
  name_ne_dot : name ≠ ['.']
  slash_not_mem : '/' ∉ name
  tail_idle : Idle tail

/-- Whether a path has a name as its last component. -/
def EndsIn (path name : List Char) : Prop := ∃ dir tail, LastComponent path dir name tail

/-- Whether a text consists of the letters of `json`, each small or capital. -/
def SpellsJson (e : List Char) : Prop :=
  List.Forall₂ (fun x l => x = l ∨ x = l.toUpper) e ['j', 's', 'o', 'n']

/-- Whether a component names a JSON file. -/
def NamesJson (name : List Char) : Prop :=
  name ≠ ['.', '.'] ∧ ∃ s e, s ≠ [] ∧ name = s ++ '.' :: e ∧ SpellsJson e

/-! ## Letters in any case -/

/-- A letter that is small in another case is that letter or its capital. -/
theorem toLower_eq_iff {x l : Char} (hl : l.isLower) : x.toLower = l ↔ x = l ∨ x = l.toUpper := by
  constructor
  · intro h
    by_cases hx : x.isUpper
    · right
      rw [← h, Char.toUpper_toLower_eq_toUpper,
        Char.toUpper_eq_of_not_isLower (Char.not_isLower_of_isUpper hx)]
    · left
      rw [← h, Char.toLower_eq_of_not_isUpper hx]
  · have hlower : l.toLower = l := Char.toLower_eq_of_not_isUpper (Char.not_isUpper_of_isLower hl)
    intro h
    cases h with
    | inl h => rw [h, hlower]
    | inr h => rw [h, Char.toLower_toUpper_eq_toLower, hlower]

/-- A text is some small letters in another case when each of its letters is the small one or its
    capital. -/
theorem map_toLower_eq_iff {e letters : List Char} (h : ∀ l ∈ letters, l.isLower) :
    e.map Char.toLower = letters ↔
      List.Forall₂ (fun x l => x = l ∨ x = l.toUpper) e letters := by
  induction letters generalizing e with
  | nil => rw [List.map_eq_nil_iff, List.forall₂_nil_right_iff]
  | cons l letters ih =>
    rw [List.forall_mem_cons] at h
    cases e with
    | nil => simp
    | cons x e => rw [List.map_cons, List.cons.injEq, List.forall₂_cons, toLower_eq_iff h.1, ih h.2]

theorem spellsJson_iff {e : List Char} :
    SpellsJson e ↔ e.map Char.toLower = ['j', 's', 'o', 'n'] :=
  (map_toLower_eq_iff (by simp)).symm

/-- Only a character that is no letter is in another case what is no letter. -/
theorem eq_of_toLower_eq {x y : Char} (hx : ¬ x.isAlpha) (h : y.toLower = x.toLower) : y = x := by
  have hlower : ¬ x.isUpper := fun hupper => hx (by simp [Char.isAlpha, hupper])
  rw [Char.toLower_eq_of_not_isUpper hlower] at h
  by_cases hy : y.isUpper
  · -- A capital becomes a letter, which the other character is not.
    have halpha : y.toLower.isAlpha := by simp [Char.isAlpha, hy]
    exact absurd (h ▸ halpha) hx
  · rw [← h, Char.toLower_eq_of_not_isUpper hy]

/-- What is no letter stands in a text when it stands in the text in another case. -/
theorem mem_of_map_toLower_eq {e e' : List Char} {x : Char} (hx : ¬ x.isAlpha)
    (h : e'.map Char.toLower = e.map Char.toLower) (hmem : x ∈ e') : x ∈ e := by
  have hlower : x.toLower ∈ e.map Char.toLower := h ▸ List.mem_map_of_mem hmem
  obtain ⟨y, hy, hxy⟩ := List.mem_map.1 hlower
  exact eq_of_toLower_eq hx hxy ▸ hy

/-! ## Components -/

theorem splitBy_eq_splitOn (c : Char) (xs : List Char) : splitBy c xs = xs.splitOn c := by
  induction xs with
  | nil => rfl
  | cons x rest ih =>
    rw [List.splitOn_cons_eq_if_modifyHead]
    unfold splitBy
    rw [ih]
    by_cases h : x = c
    · simp [h]
    · -- There is always a first part, and the character goes in front of it.
      cases hparts : rest.splitOn c with
      | nil => exact absurd hparts (List.splitOn_ne_nil c rest)
      | cons part parts => simp [h]

/-- The components of a path, given by its characters. -/
def componentsOf (path : List Char) : List (List Char) :=
  (path.splitOn '/').filter fun c => c ≠ [] ∧ c ≠ ['.']

theorem components_eq (path : String) : components path = componentsOf path.toList := by
  unfold components componentsOf
  rw [splitBy_eq_splitOn]

/-- A slash separates the components before it from those after it. -/
theorem componentsOf_append_slash (xs ys : List Char) :
    componentsOf (xs ++ '/' :: ys) = componentsOf xs ++ componentsOf ys := by
  unfold componentsOf
  rw [List.splitOn_append_cons_self, List.filter_append]

theorem componentsOf_nil : componentsOf [] = [] := rfl

theorem componentsOf_dot : componentsOf ['.'] = [] := rfl

/-- Without a slash there is one component. -/
theorem componentsOf_name {name : List Char} (hnil : name ≠ []) (hdot : name ≠ ['.'])
    (hslash : '/' ∉ name) : componentsOf name = [name] := by
  unfold componentsOf
  rw [List.splitOn_eq_singleton hslash]
  simp [hnil, hdot]

/-- Nothing that is idle adds a component. -/
theorem componentsOf_append_idle {tail : List Char} (h : Idle tail) (xs : List Char) :
    componentsOf (xs ++ tail) = componentsOf xs := by
  induction h generalizing xs with
  | nil => rw [List.append_nil]
  | slash _ ih =>
    have hrest := ih []
    rw [List.nil_append, componentsOf_nil] at hrest
    rw [componentsOf_append_slash, hrest, List.append_nil]
  | dot _ ih =>
    have hrest := ih ['.']
    rw [List.singleton_append, componentsOf_dot] at hrest
    rw [componentsOf_append_slash, hrest, List.append_nil]

theorem Idle.append {xs ys : List Char} (hxs : Idle xs) (hys : Idle ys) : Idle (xs ++ ys) := by
  induction hxs with
  | nil => exact hys
  | slash _ ih => exact .slash ih
  | dot _ ih => exact .dot ih

namespace LastComponent

variable {path dir name tail : List Char}

/-- What is read as the last component is the last component. -/
theorem getLast?_componentsOf (h : LastComponent path dir name tail) :
    (componentsOf path).getLast? = some name := by
  have hname := componentsOf_name h.name_ne_nil h.name_ne_dot h.slash_not_mem
  rw [h.path_eq, componentsOf_append_idle h.tail_idle]
  cases h.dir_ends with
  | inl hdir => rw [hdir, List.nil_append, hname, List.getLast?_singleton]
  | inr hdir =>
    obtain ⟨parents, hparents⟩ := hdir
    rw [hparents, List.append_assoc, List.singleton_append, componentsOf_append_slash, hname,
      List.getLast?_concat]

/-- Whatever stands before a path and a slash goes to what leads up to the last component. -/
theorem prepend (h : LastComponent path dir name tail) (before : List Char) :
    LastComponent (before ++ '/' :: path) (before ++ '/' :: dir) name tail :=
  { h with
    path_eq := by simp [h.path_eq]
    dir_ends := by
      cases h.dir_ends with
      | inl hdir => exact .inr ⟨before, by rw [hdir]⟩
      | inr hdir =>
        obtain ⟨parents, hparents⟩ := hdir
        exact .inr ⟨before ++ '/' :: parents, by simp [hparents]⟩ }

/-- What is idle goes to what is left after the last component. -/
theorem append (h : LastComponent path dir name tail) {more : List Char} (hmore : Idle more) :
    LastComponent (path ++ more) dir name (tail ++ more) :=
  { h with
    path_eq := by rw [h.path_eq, List.append_assoc]
    tail_idle := h.tail_idle.append hmore }

/-- Another case of the letters in an extension makes another last component in the same place. -/
theorem recase {s e e' : List Char} (h : LastComponent path dir (s ++ '.' :: e) tail)
    (he : e'.map Char.toLower = e.map Char.toLower) :
    LastComponent (dir ++ (s ++ '.' :: e') ++ tail) dir (s ++ '.' :: e') tail where
  path_eq := rfl
  dir_ends := h.dir_ends
  name_ne_nil := by simp
  name_ne_dot := by
    -- A name that is only the dot has an empty extension in every case.
    intro hdot
    have hlength : e'.length = e.length := by simpa using congrArg List.length he
    have hdotLength := congrArg List.length hdot
    apply h.name_ne_dot
    cases e with
    | nil =>
      rw [List.eq_nil_of_length_eq_zero hlength] at hdot
      exact hdot
    | cons x e =>
      simp only [List.length_append, List.length_cons, List.length_nil] at hdotLength hlength
      omega
  slash_not_mem := by
    intro hslash
    apply h.slash_not_mem
    simp only [List.mem_append, List.mem_cons] at hslash ⊢
    exact hslash.imp_right (Or.imp_right (mem_of_map_toLower_eq (by decide) he))
  tail_idle := h.tail_idle

end LastComponent

/-- A path that begins with another character than a slash has a last component when the rest of it
    has none, unless the character is a dot that stands alone. -/
theorem idle_or_endsIn_of_idle {x : Char} {rest : List Char} (hx : x ≠ '/')
    (h : Idle ('/' :: rest)) :
    Idle ('/' :: x :: rest) ∨ ∃ name, EndsIn (x :: rest) name := by
  cases h with
  | slash hrest =>
    by_cases hdot : x = '.'
    · exact .inl (hdot ▸ .dot hrest)
    · exact .inr ⟨[x], [], rest, rfl, .inl rfl, by simp, by simpa using hdot,
        by simpa using Ne.symm hx, hrest⟩
  | @dot rest hrest =>
    exact .inr ⟨[x, '.'], [], rest, rfl, .inl rfl, by simp, by simp,
      by simpa using Ne.symm hx, hrest⟩

/-- A path has a last component, or there is nothing in it but slashes and single dots.  The
    induction is on the characters of the path. -/
theorem idle_or_exists_endsIn (path : List Char) :
    Idle ('/' :: path) ∨ ∃ name, EndsIn path name := by
  induction path with
  | nil => exact .inl (.slash .nil)
  | cons x rest ih =>
    by_cases hx : x = '/'
    · subst hx
      cases ih with
      | inl hidle => exact .inl (.slash hidle)
      | inr hlast =>
        obtain ⟨name, dir, tail, h⟩ := hlast
        exact .inr ⟨name, _, _, h.prepend []⟩
    · cases ih with
      | inl hidle => exact idle_or_endsIn_of_idle hx hidle
      | inr hlast =>
        obtain ⟨name, dir, tail, h⟩ := hlast
        apply Or.inr
        cases h.dir_ends with
        | inl hdir =>
          -- The last component begins the rest, so the character belongs to it.
          have hname : x :: name ≠ ['.'] := by simp [h.name_ne_nil]
          refine ⟨x :: name, [], tail, ?_, .inl rfl, by simp, hname, ?_, h.tail_idle⟩
          · simp [h.path_eq, hdir]
          · simp [h.slash_not_mem, Ne.symm hx]
        | inr hdir =>
          obtain ⟨parents, hparents⟩ := hdir
          refine ⟨name, x :: dir, tail, ?_, .inr ⟨x :: parents, ?_⟩, h.name_ne_nil, h.name_ne_dot,
            h.slash_not_mem, h.tail_idle⟩
          · simp [h.path_eq]
          · rw [hparents, List.cons_append]

/-- The last of the components of a path is the one that it ends in. -/
theorem getLast?_components_eq_some_iff {path : String} {name : List Char} :
    (components path).getLast? = some name ↔ EndsIn path.toList name := by
  rw [components_eq]
  constructor
  · intro h
    cases idle_or_exists_endsIn path.toList with
    | inl hidle =>
      -- Then there are no components at all.
      have hnone := componentsOf_append_idle hidle []
      rw [List.nil_append, ← List.nil_append ('/' :: path.toList), componentsOf_append_slash,
        componentsOf_nil, List.nil_append] at hnone
      rw [hnone, List.getLast?_nil] at h
      cases h
    | inr hlast =>
      obtain ⟨name', dir, tail, h'⟩ := hlast
      have hsame := h'.getLast?_componentsOf
      rw [h, Option.some.injEq] at hsame
      exact ⟨dir, tail, hsame ▸ h'⟩
  · rintro ⟨dir, tail, h⟩
    exact h.getLast?_componentsOf

/-! ## Extensions -/

theorem extension?_of_no_dot {name : List Char} (h : '.' ∉ name) : extension? name = none := by
  unfold extension?
  rw [splitBy_eq_splitOn, List.splitOn_eq_singleton h]
  split <;> rfl

/-- What follows the last dot of a component is its extension, unless nothing stands before the
    dot. -/
theorem extension?_append {s e : List Char} (hs : s ≠ []) (he : '.' ∉ e)
    (hparent : s ++ '.' :: e ≠ ['.', '.']) : extension? (s ++ '.' :: e) = some e := by
  unfold extension?
  rw [if_neg hparent, splitBy_eq_splitOn, List.splitOn_append_cons_self,
    List.splitOn_eq_singleton he]
  have hparts : ['.'].intercalate (s.splitOn '.') = s := List.intercalate_splitOn '.'
  cases hsplit : s.splitOn '.' with
  | nil => exact absurd hsplit (List.splitOn_ne_nil '.' s)
  | cons first more =>
    cases more with
    | nil =>
      -- The one part of what stands before the dot is all of it, and so it is not empty.
      rw [hsplit] at hparts
      have hfirst : first = s := by simpa using hparts
      cases first with
      | nil => exact absurd hfirst.symm hs
      | cons => rfl
    | cons second more =>
      -- There are three parts at least, and the extension is the last of them.
      have hlast : (first :: second :: more ++ [e]).getLast? = some e := List.getLast?_concat
      simpa using hlast

theorem extension?_leading_dot {e : List Char} (he : '.' ∉ e) : extension? ('.' :: e) = none := by
  unfold extension?
  rw [splitBy_eq_splitOn, ← List.nil_append ('.' :: e), List.splitOn_append_cons_self,
    List.splitOn_eq_singleton he, List.splitOn_nil]
  split <;> rfl

/-- The extension of a component is what follows its last dot, if something stands before that. -/
theorem extension?_eq_some_iff {name e : List Char} :
    extension? name = some e ↔
      name ≠ ['.', '.'] ∧ ∃ s, s ≠ [] ∧ name = s ++ '.' :: e ∧ '.' ∉ e := by
  constructor
  · intro h
    have hparent : name ≠ ['.', '.'] := by
      rintro rfl
      cases h
    by_cases hdot : '.' ∈ name
    · -- The last dot is the first one from the end.
      obtain ⟨after, before, hreverse, hafter⟩ :=
        List.eq_append_cons_of_mem (List.mem_reverse.2 hdot)
      have hname : name = before.reverse ++ '.' :: after.reverse := by
        rw [← List.reverse_reverse name, hreverse]
        simp
      have he : '.' ∉ after.reverse := by simpa using hafter
      subst hname
      by_cases hs : before.reverse = []
      · rw [hs, List.nil_append, extension?_leading_dot he] at h
        cases h
      · rw [extension?_append hs he hparent, Option.some.injEq] at h
        exact ⟨hparent, before.reverse, hs, by rw [h], h ▸ he⟩
    · rw [extension?_of_no_dot hdot] at h
      cases h
  · rintro ⟨hparent, s, hs, rfl, he⟩
    exact extension?_append hs he hparent

/-! ## Formats -/

theorem dot_not_mem_of_spellsJson {e : List Char} (h : SpellsJson e) : '.' ∉ e := by
  intro hdot
  have hletters : e.map Char.toLower = ['j', 's', 'o', 'n'].map Char.toLower := spellsJson_iff.1 h
  have hmem := mem_of_map_toLower_eq (by decide) hletters hdot
  simp at hmem

/-- A component names a JSON file when its extension is `json` in any case. -/
theorem namesJson_iff {name : List Char} :
    NamesJson name ↔
      ∃ e, extension? name = some e ∧ e.map Char.toLower = ['j', 's', 'o', 'n'] := by
  constructor
  · rintro ⟨hparent, s, e, hs, hname, he⟩
    exact ⟨e, extension?_eq_some_iff.2 ⟨hparent, s, hs, hname, dot_not_mem_of_spellsJson he⟩,
      spellsJson_iff.1 he⟩
  · rintro ⟨e, hextension, he⟩
    obtain ⟨hparent, s, hs, hname, -⟩ := extension?_eq_some_iff.1 hextension
    exact ⟨hparent, s, e, hs, hname, spellsJson_iff.2 he⟩

theorem ofPath_eq_json_iff {path : String} :
    ofPath path = .json ↔ ∃ name, EndsIn path.toList name ∧ NamesJson name := by
  have hofPath : ofPath path = .json ↔ ∃ name e, (components path).getLast? = some name ∧
      extension? name = some e ∧ e.map Char.toLower = ['j', 's', 'o', 'n'] := by
    unfold ofPath
    cases (components path).getLast? with
    | none => simp
    | some name => cases hextension : extension? name <;> simp [hextension]
  rw [hofPath]
  simp only [getLast?_components_eq_some_iff, namesJson_iff, exists_and_left]

/-- A path with an extension is one of a JSON file just when that is `json` in any case. -/
theorem namesJson_append_iff {s e : List Char} (hs : s ≠ []) (he : '.' ∉ e) :
    NamesJson (s ++ '.' :: e) ↔ e.map Char.toLower = ['j', 's', 'o', 'n'] := by
  rw [namesJson_iff]
  constructor
  · rintro ⟨e', hextension, he'⟩
    rw [extension?_append hs he (extension?_eq_some_iff.1 hextension).1,
      Option.some.injEq] at hextension
    rw [hextension, he']
  · intro hjson
    -- The name is longer than two dots.
    refine ⟨e, extension?_append hs he ?_, hjson⟩
    intro hparent
    have hlength := congrArg List.length hjson
    have hparentLength := congrArg List.length hparent
    simp only [List.length_map, List.length_append, List.length_cons] at hlength hparentLength
    omega

theorem EndsIn.unique {path : String} {name name' : List Char} (h : EndsIn path.toList name)
    (h' : EndsIn path.toList name') : name = name' := by
  rw [← getLast?_components_eq_some_iff] at h h'
  rw [h, Option.some.injEq] at h'
  exact h'

theorem EndsIn.tells_json_iff {path : String} {name : List Char} (h : EndsIn path.toList name) :
    ofPath path = .json ↔ NamesJson name := by
  rw [ofPath_eq_json_iff]
  constructor
  · rintro ⟨name', h', hjson⟩
    rw [h.unique h']
    exact hjson
  · intro hjson
    exact ⟨name, h, hjson⟩

/-- The last component alone decides, and of that only whether it names a JSON file. -/
theorem ofPath_eq_of_endsIn {path path' : String} {name name' : List Char}
    (h : EndsIn path.toList name) (h' : EndsIn path'.toList name')
    (hnames : NamesJson name' ↔ NamesJson name) : ofPath path' = ofPath path := by
  have hsame : ofPath path' = .json ↔ ofPath path = .json := by
    rw [h'.tells_json_iff, h.tells_json_iff, hnames]
  cases hformat : ofPath path <;> cases hformat' : ofPath path' <;> simp_all

/-- The format of a file follows from the last component of its path alone: the last of the parts
    between slashes that is neither empty nor a single dot.

* A path tells JSON just when it has such a component, that is not two dots, and the component ends
  in a dot and `json` in any case with something in front of the dot.  Every other path tells YAML.
* Two paths with the same last component tell the same format.
* Nothing that is done around the last component changes the format: no directory in front of the
  path, no slash and no single dot behind it.  Neither does another case of the extension. -/
theorem ofPath_last_component_alone :
    (∀ path : String,
      (∀ name, EndsIn path.toList name ↔
        ((path.toList.splitOn '/').filter fun c => c ≠ [] ∧ c ≠ ['.']).getLast? = some name) ∧
      (ofPath path = .json ↔ ∃ name, EndsIn path.toList name ∧ NamesJson name) ∧
      (ofPath path = .yaml ↔ ¬ ∃ name, EndsIn path.toList name ∧ NamesJson name)) ∧
    (∀ (path path' : String) (name : List Char),
      EndsIn path.toList name → EndsIn path'.toList name → ofPath path' = ofPath path) ∧
    ∀ path : String, (∃ name, EndsIn path.toList name) →
      (∀ dir : String, ofPath (dir ++ "/" ++ path) = ofPath path) ∧
      ofPath (path ++ "/") = ofPath path ∧
      ofPath (path ++ "/.") = ofPath path ∧
      ∀ dir s e e' tail : List Char, LastComponent path.toList dir (s ++ '.' :: e) tail →
        s ≠ [] → '.' ∉ e → e'.map Char.toLower = e.map Char.toLower →
        ofPath (String.ofList (dir ++ (s ++ '.' :: e') ++ tail)) = ofPath path := by
  refine ⟨fun path => ⟨fun name => ?_, ofPath_eq_json_iff, ?_⟩, ?_, ?_⟩
  · rw [← getLast?_components_eq_some_iff, components_eq]
    rfl
  · rw [← ofPath_eq_json_iff]
    cases ofPath path <;> simp
  · intro path path' name h h'
    exact ofPath_eq_of_endsIn h h' Iff.rfl
  · rintro path ⟨name, dir, tail, h⟩
    have hends : EndsIn path.toList name := ⟨dir, tail, h⟩
    refine ⟨fun before => ?_, ?_, ?_, ?_⟩
    · apply ofPath_eq_of_endsIn hends _ Iff.rfl
      exact ⟨_, tail, by simpa using h.prepend before.toList⟩
    · apply ofPath_eq_of_endsIn hends _ Iff.rfl
      exact ⟨dir, _, by simpa using h.append (.slash .nil)⟩
    · apply ofPath_eq_of_endsIn hends _ Iff.rfl
      exact ⟨dir, _, by simpa using h.append (.dot .nil)⟩
    · intro dir s e e' tail h hs he hcase
      have he' : '.' ∉ e' := fun hdot => he (mem_of_map_toLower_eq (by decide) hcase hdot)
      apply ofPath_eq_of_endsIn ⟨dir, tail, h⟩
      · rw [String.toList_ofList]
        exact ⟨dir, tail, h.recase hcase⟩
      · rw [namesJson_append_iff hs he', namesJson_append_iff hs he, hcase]

/-- Slashes and single dots may follow the last component, and of several dots the last one
    counts. -/
theorem ofPath_last_component_alone_idle_tail :
    EndsIn "a/b.c.JSON//.".toList "b.c.JSON".toList ∧
      ofPath "a/b.c.JSON//." = .json ∧
      ofPath "../.yaml/a/b.c.JSON//." = .json ∧
      ofPath "a/b.c.JSON//./." = .json ∧
      ofPath "a/b.c.jSoN//." = .json := by
  have h : LastComponent "a/b.c.JSON//.".toList "a/".toList ("b.c".toList ++ '.' :: "JSON".toList)
      "//.".toList :=
    ⟨rfl, .inr ⟨['a'], rfl⟩, by decide, by decide, by decide, .slash (.dot .nil)⟩
  have hends : EndsIn "a/b.c.JSON//.".toList ("b.c".toList ++ '.' :: "JSON".toList) := ⟨_, _, h⟩
  obtain ⟨hformat, -, haround⟩ := ofPath_last_component_alone
  have hjson : ofPath "a/b.c.JSON//." = .json := by
    refine (hformat _).2.1.2 ⟨_, hends, by decide, "b.c".toList, "JSON".toList, by decide, rfl, ?_⟩
    exact spellsJson_iff.2 (by decide)
  obtain ⟨hbefore, -, hafter, hcase⟩ := haround _ ⟨_, hends⟩
  refine ⟨hends, hjson, ?_, ?_, ?_⟩
  · exact (hbefore "../.yaml").trans hjson
  · exact hafter.trans hjson
  · exact (hcase _ _ _ "jSoN".toList _ h (by decide) (by decide) (by decide)).trans hjson

end TokenAtlas.DocumentFormat
