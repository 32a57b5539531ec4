import Mathlib
import TokenAtlas.Document
import TokenAtlas.Proofs.Tables

/-!
# Loading a document

A document is loaded definition by definition.  `Definition.faultAfter?` says what is wrong with a
definition that comes after others: its map cannot be built, or one of the others has its name.  The
first definition with a fault decides the error, and without any fault the atlas holds the maps of
all definitions in their order.  All of this holds whatever the size check of patterns counts.

## Key results

- `add_of_fault`, `add_of_no_fault`: what one definition does to the atlas of those before it
- `foldlM_add_of_fault`, `foldlM_add_of_no_fault`: what a list of definitions does to it
- `load_eq_fold`: what loading gives, for every document
-/

namespace TokenAtlas

section

variable [Pattern.SizeCheck]

/-- What is wrong with a definition after others.  A map that cannot be built is reported before a
    repeated name. -/
def Definition.faultAfter? (before : List Definition) (d : Definition) : Option BuildError :=
  match d.build with
  | .error e => some e
  | .ok _ => if d.name ∈ before.map Definition.name then some (.duplicateName d.name) else none

/-- The map of a definition has its name. -/
theorem Definition.name_of_build {d : Definition} {m : TokenMap} (h : d.build = .ok m) :
    m.name = d.name := by
  cases d with
  | patterns name pattern =>
    simp only [build, Recognizer.ofSource] at h
    split at h
    · obtain rfl := Except.ok.inj h
      rfl
    · exact nomatch h
  | characters name entries =>
    obtain ⟨t, ht, rfl⟩ := map_eq_ok_iff.1 h
    exact Table.name_of_ofBlock ht
  | macros name entries =>
    obtain ⟨t, ht, rfl⟩ := map_eq_ok_iff.1 h
    exact Table.name_of_ofBlock ht

end

namespace Document

section

variable [Pattern.SizeCheck]

/-- An atlas holds the maps of definitions, in their order. -/
def Holds (a : Atlas) (ds : List Definition) : Prop :=
  ds.map Definition.build = a.maps.map Except.ok

theorem holds_empty : Holds .empty [] := rfl

/-- The maps have the names of their definitions. -/
theorem Holds.names_eq {a : Atlas} {ds : List Definition} (h : Holds a ds) :
    a.names = ds.map Definition.name := by
  obtain ⟨maps, nodup⟩ := a
  simp only [Holds, Atlas.names] at h ⊢
  -- Parts of an atlas need not be atlases, so the induction is on the maps alone.
  clear nodup
  induction ds generalizing maps with
  | nil =>
    obtain rfl : maps = [] := by simpa using h.symm
    rfl
  | cons d ds ih =>
    cases maps with
    | nil => exact nomatch h
    | cons m maps =>
      obtain ⟨hd, hds⟩ := List.cons.inj h
      rw [List.map_cons, List.map_cons, Definition.name_of_build hd, ih maps hds]

/-! ## One definition -/

/-- A definition with a fault is refused with it. -/
theorem add_of_fault {a : Atlas} {before : List Definition} {d : Definition} {e : BuildError}
    (ha : Holds a before) (h : d.faultAfter? before = some e) : add a d = .error e := by
  rw [Definition.faultAfter?] at h
  rw [add]
  -- A definition that cannot be built is never compared with the names before it.
  cases hbuild : d.build with
  | error e' =>
    simp only [hbuild, Option.some.injEq] at h
    rw [h]
  | ok m =>
    simp only [hbuild] at h
    split at h
    · rename_i hname
      obtain rfl := Option.some.inj h
      rw [← Definition.name_of_build hbuild, ← ha.names_eq] at hname
      exact Atlas.push_eq_error_iff.2 ⟨hname, by rw [Definition.name_of_build hbuild]⟩
    · exact nomatch h

/-- A definition without a fault is taken up, and its map comes last. -/
theorem add_of_no_fault {a : Atlas} {before : List Definition} {d : Definition}
    (ha : Holds a before) (h : d.faultAfter? before = none) :
    ∃ a', add a d = .ok a' ∧ Holds a' (before ++ [d]) := by
  rw [Definition.faultAfter?] at h
  rw [add]
  cases hbuild : d.build with
  | error e => simp [hbuild] at h
  | ok m =>
    simp only [hbuild] at h
    split at h
    · exact nomatch h
    · -- The atlas holds maps with just the names of the definitions before.
      rename_i hname
      rw [← Definition.name_of_build hbuild, ← ha.names_eq] at hname
      refine ⟨⟨a.maps ++ [m], Atlas.nodup_append_singleton hname⟩,
        Atlas.push_eq_ok_iff.2 ⟨hname, rfl⟩, ?_⟩
      simp only [Holds, List.map_append, List.map_cons, List.map_nil, hbuild]
      rw [show before.map Definition.build = a.maps.map Except.ok from ha]

/-! ## Definitions one after the other -/

/-- The first definition with a fault decides the error. -/
theorem foldlM_add_of_fault {a : Atlas} {before rest : List Definition} (ha : Holds a before)
    {i : Nat} {d : Definition} {e : BuildError} (hd : rest[i]? = some d)
    (he : d.faultAfter? (before ++ rest.take i) = some e)
    (hfirst : ∀ j d', j < i → rest[j]? = some d' →
      d'.faultAfter? (before ++ rest.take j) = none) :
    rest.foldlM add a = .error e := by
  induction rest generalizing a before i with
  | nil => exact absurd hd (by simp)
  | cons d₀ rest ih =>
    rw [List.foldlM_cons]
    -- What comes before the faulty definition is taken up and joins the definitions before.
    cases i with
    | zero =>
      obtain rfl : d₀ = d := by simpa using hd
      rw [add_of_fault ha (by simpa using he)]
      rfl
    | succ i =>
      have hnone : d₀.faultAfter? before = none := by
        simpa using hfirst 0 d₀ (Nat.succ_pos i) rfl
      obtain ⟨a', hadd, ha'⟩ := add_of_no_fault ha hnone
      rw [hadd]
      refine ih ha' (i := i) (by simpa using hd) (by simpa using he) fun j d' hj hd' => ?_
      simpa using hfirst (j + 1) d' (Nat.succ_lt_succ hj) (by simpa using hd')

/-- Definitions without any fault are all taken up. -/
theorem foldlM_add_of_no_fault {a : Atlas} {before rest : List Definition} (ha : Holds a before)
    (h : ∀ (i : Nat) (d : Definition), rest[i]? = some d →
      d.faultAfter? (before ++ rest.take i) = none) :
    ∃ a', rest.foldlM add a = .ok a' ∧ Holds a' (before ++ rest) := by
  -- On the definitions that are left; `Holds` is kept by each of them.
  induction rest generalizing a before with
  | nil => exact ⟨a, rfl, by simpa using ha⟩
  | cons d₀ rest ih =>
    have hnone : d₀.faultAfter? before = none := by simpa using h 0 d₀ rfl
    obtain ⟨a', hadd, ha'⟩ := add_of_no_fault ha hnone
    obtain ⟨a'', hrest, ha''⟩ := ih ha' fun i d hd => by simpa using h (i + 1) d (by simpa using hd)
    refine ⟨a'', ?_, by simpa using ha''⟩
    rw [List.foldlM_cons, hadd]
    exact hrest

/-- A document loads if every map can be built and no name is repeated. -/
theorem exists_load_of_nodup {doc : Document} {ds : List Definition} (h : doc.definitions = .ok ds)
    (hbuild : ∀ d ∈ ds, ∃ m, d.build = .ok m) (hnodup : (ds.map Definition.name).Nodup) :
    ∃ a, doc.load = .ok a ∧ Holds a ds := by
  have hnone (i : Nat) (d : Definition) (hd : ds[i]? = some d) :
      d.faultAfter? ([] ++ ds.take i) = none := by
    obtain ⟨m, hm⟩ := hbuild d (List.mem_of_getElem? hd)
    -- The name stands behind the first `i`, so it is not among theirs.
    have hmem : d ∈ ds.drop i := by
      refine List.mem_of_getElem? (i := 0) ?_
      rwa [List.getElem?_drop, Nat.add_zero]
    rw [← List.take_append_drop i ds, List.map_append, List.nodup_append] at hnodup
    have hname : d.name ∉ (ds.take i).map Definition.name := fun hrepeated =>
      hnodup.2.2 _ hrepeated _ (List.mem_map_of_mem hmem) rfl
    rw [List.nil_append, Definition.faultAfter?, hm]
    exact if_neg hname
  obtain ⟨a, hfold, ha⟩ := foldlM_add_of_no_fault holds_empty hnone
  refine ⟨a, ?_, by rwa [List.nil_append] at ha⟩
  have hbuilt : build ds = .ok a := hfold
  simp only [load, h, hbuilt]

/-- What is taken up is the map of a definition. -/
theorem holds_of_add {a b : Atlas} {before : List Definition} {d : Definition} (ha : Holds a before)
    (h : add a d = .ok b) : Holds b (before ++ [d]) := by
  cases hfault : d.faultAfter? before with
  | some e => exact nomatch (add_of_fault ha hfault).symm.trans h
  | none =>
    obtain ⟨b', hadd, hb⟩ := add_of_no_fault ha hfault
    obtain rfl : b' = b := Except.ok.inj (hadd.symm.trans h)
    exact hb

/-- An atlas that definitions were added to holds their maps after its own. -/
theorem holds_of_foldlM {a b : Atlas} {before rest : List Definition} (ha : Holds a before)
    (h : rest.foldlM add a = .ok b) : Holds b (before ++ rest) := by
  induction rest generalizing a before with
  | nil =>
    obtain rfl : a = b := Except.ok.inj h
    rwa [List.append_nil]
  | cons d rest ih =>
    rw [List.foldlM_cons] at h
    cases hadd : add a d with
    | error e =>
      rw [hadd] at h
      exact nomatch h
    | ok a' =>
      rw [hadd] at h
      have hb := ih (holds_of_add ha hadd) h
      rwa [List.append_assoc] at hb

/-- What is loaded are the maps of the definitions of a document. -/
theorem holds_of_load {doc : Document} {a : Atlas} (h : doc.load = .ok a) :
    ∃ ds, doc.definitions = .ok ds ∧ Holds a ds := by
  unfold load at h
  cases hds : doc.definitions with
  | error e => simp [hds] at h
  | ok ds =>
    simp only [hds] at h
    split at h
    · rename_i a' hbuild
      obtain rfl : a' = a := Except.ok.inj h
      exact ⟨ds, rfl, holds_of_foldlM holds_empty hbuild⟩
    · exact nomatch h

/-- Each map of an atlas is that of a definition. -/
theorem Holds.exists_of_mem {a : Atlas} {ds : List Definition} (h : Holds a ds) {m : TokenMap}
    (hm : m ∈ a.maps) : ∃ d ∈ ds, d.build = .ok m := by
  have hbuilt : Except.ok m ∈ ds.map Definition.build := by
    rw [show ds.map Definition.build = a.maps.map Except.ok from h]
    exact List.mem_map_of_mem hm
  exact List.mem_map.1 hbuilt

/-- The map of a definition is in the atlas. -/
theorem Holds.mem_of_build {a : Atlas} {ds : List Definition} (h : Holds a ds) {d : Definition}
    (hd : d ∈ ds) {m : TokenMap} (hm : d.build = .ok m) : m ∈ a.maps := by
  have hbuilt : d.build ∈ a.maps.map Except.ok := by
    rw [← show ds.map Definition.build = a.maps.map Except.ok from h]
    exact List.mem_map_of_mem hd
  obtain ⟨m', hm', heq⟩ := List.mem_map.1 hbuilt
  obtain rfl : m' = m := Except.ok.inj (heq.trans hm)
  exact hm'

/-- Loading is the fold of the definitions in their order.

* Where there are no definitions, the reason for that is the error.
* Otherwise the first definition with a fault decides the error.
* Otherwise the atlas has the names of the definitions in their order, and for each of them the very
  map that it gives when it is built alone. -/
theorem load_eq_fold (doc : Document) :
    (∀ e, doc.definitions = .error e → doc.load = .error e) ∧
    ∀ ds, doc.definitions = .ok ds →
      (∀ (i : Nat) (d : Definition) (e : BuildError), ds[i]? = some d →
        d.faultAfter? (ds.take i) = some e →
        (∀ (j : Nat) (d' : Definition), j < i → ds[j]? = some d' →
          d'.faultAfter? (ds.take j) = none) →
        doc.load = .error (.build e)) ∧
      ((∀ (i : Nat) (d : Definition), ds[i]? = some d → d.faultAfter? (ds.take i) = none) →
        ∃ a, doc.load = .ok a ∧ a.names = ds.map Definition.name ∧ a.size = ds.length ∧
          ∀ (i : Nat) (d : Definition), ds[i]? = some d →
            ∃ m, d.build = .ok m ∧ a.maps[i]? = some m) := by
  refine ⟨fun e h => by rw [load, h], fun ds h => ⟨fun i d e hd he hfirst => ?_, fun hnone => ?_⟩⟩
  · have herror : build ds = .error e :=
      foldlM_add_of_fault holds_empty hd (by simpa using he) (by simpa using hfirst)
    rw [load, h]
    simp only [herror]
  · obtain ⟨a, hbuild, ha⟩ : ∃ a, build ds = .ok a ∧ Holds a ([] ++ ds) :=
      foldlM_add_of_no_fault holds_empty (by simpa using hnone)
    rw [List.nil_append] at ha
    refine ⟨a, by rw [load, h]; simp only [hbuild], ha.names_eq, ?_, fun i d hd => ?_⟩
    · have := congrArg List.length ha
      simpa [Atlas.size] using this.symm
    · have hi : (ds.map Definition.build)[i]? = (a.maps.map Except.ok)[i]? := by rw [ha]
      rw [List.getElem?_map, List.getElem?_map, hd] at hi
      obtain ⟨m, hm, heq⟩ := Option.map_eq_some_iff.1 hi.symm
      exact ⟨m, heq.symm, hm⟩

end

/-- A second definition that repeats the name of the first and cannot be built either: the fault of
    its entry is what is reported. -/
theorem load_eq_fold_second_of_name :
    (Document.mk .json
      "\x7b\"maps\":[[\"macro\",\"m\",\x7b\x7d],[\"macro\",\"m\",\x7b\"b\":[]\x7d]]\x7d").load =
      .error (.build (.entry "m" "b" .emptyDescriptor)) := by
  let doc : Document := ⟨.json,
    "\x7b\"maps\":[[\"macro\",\"m\",\x7b\x7d],[\"macro\",\"m\",\x7b\"b\":[]\x7d]]\x7d"⟩
  let first : Definition := .macros "m" .empty
  let second : Definition := .macros "m" (.ofList [("b", .array [])])
  have hdefinitions : doc.definitions = .ok [first, second] := by cbv
  have hfirst : first.faultAfter? [] = none := by cbv
  have hsecond : second.faultAfter? [first] = some (.entry "m" "b" .emptyDescriptor) := by cbv
  refine ((load_eq_fold doc).2 _ hdefinitions).1 1 second _ rfl hsecond fun j d hj hd => ?_
  obtain rfl : j = 0 := by omega
  obtain rfl : first = d := Option.some.inj hd
  exact hfirst

end Document

end TokenAtlas
