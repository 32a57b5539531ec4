import TokenAtlas.Proofs.Resolution

/-!
# Pushing maps one after the other

Maps are pushed onto the atlas without maps in any order, and pushing goes on after a refusal.  What
comes of it depends on the names alone: under each name the atlas holds the map that was pushed
first, and the names stand in the order in which they first came.  A map is refused just when one
with its name was accepted before, and a refusal leaves no trace.

`Atlas.HoldsFirsts` is the invariant: what an atlas shows of the maps that were pushed so far.

## Key results

- `HoldsFirsts.tryPush`: one more map keeps the invariant, whether it is accepted or refused
- `holdsFirsts_pushAll`: the invariant holds after every run
- `acceptedIn_iff_mem`: the names that were accepted are the names that were pushed
- `pushAll_holds_firsts`: what a run shows at each of its points and at its end
-/

namespace TokenAtlas.Atlas

/-- What is left of an atlas when maps are pushed one after the other. -/
def pushAll (a : Atlas) (ms : List TokenMap) : Atlas := ms.foldl tryPush a

/-- Whether a map with a name was accepted while the maps of a list were pushed. -/
def AcceptedIn (pushed : List TokenMap) (name : String) : Prop :=
  ∃ earlier m later, pushed = earlier ++ m :: later ∧ m.name = name ∧
    ∃ b, (empty.pushAll earlier).push m = .ok b

/-- What an atlas shows of the maps that were pushed onto it. -/
structure HoldsFirsts (a : Atlas) (pushed : List TokenMap) : Prop where
  /-- The names are those that were pushed, each where it first came. -/
  names_eq : a.names = (pushed.map TokenMap.name).eraseDups
  /-- Under each name there is the map that was pushed first. -/
  get?_eq (name : String) : a.get? name = pushed.find? (·.name == name)

/-! ## Names in the order in which they first came -/

/-- A name that is appended counts if it did not come before. -/
theorem eraseDups_concat (names : List String) (name : String) :
    (names ++ [name]).eraseDups = names.eraseDups ++ if name ∈ names then [] else [name] := by
  rw [List.eraseDups_append]
  by_cases h : name ∈ names <;> simp [List.removeAll, List.eraseDups_cons, h]

/-- Under a name that was pushed there is a first map. -/
theorem isSome_find?_name {pushed : List TokenMap} {name : String}
    (h : name ∈ pushed.map TokenMap.name) : (pushed.find? (·.name == name)).isSome := by
  obtain ⟨m, hm, rfl⟩ := List.mem_map.1 h
  rw [List.find?_isSome]
  exact ⟨m, hm, by simp⟩

/-! ## One map -/

theorem pushAll_concat (a : Atlas) (before : List TokenMap) (m : TokenMap) :
    a.pushAll (before ++ [m]) = (a.pushAll before).tryPush m := by
  simp [pushAll, List.foldl_append]

theorem tryPush_of_ok {a b : Atlas} {m : TokenMap} (h : a.push m = .ok b) : a.tryPush m = b := by
  unfold tryPush
  simp only [h]

theorem tryPush_of_error {a : Atlas} {m : TokenMap} {e : BuildError} (h : a.push m = .error e) :
    a.tryPush m = a := by
  unfold tryPush
  simp only [h]

/-- A map with a name of its own comes last. -/
theorem maps_tryPush {a : Atlas} {m : TokenMap} (h : m.name ∉ a.names) :
    (a.tryPush m).maps = a.maps ++ [m] := by
  have hpush : a.push m = .ok ⟨a.maps ++ [m], nodup_append_singleton h⟩ :=
    push_eq_ok_iff.2 ⟨h, rfl⟩
  rw [tryPush_of_ok hpush]

/-! ## Runs -/

theorem holdsFirsts_empty : empty.HoldsFirsts [] where
  names_eq := rfl
  get?_eq _ := rfl

/-- The names of an atlas are the names that were pushed. -/
theorem HoldsFirsts.mem_names_iff {a : Atlas} {pushed : List TokenMap} (h : a.HoldsFirsts pushed)
    {name : String} : name ∈ a.names ↔ name ∈ pushed.map TokenMap.name := by
  rw [h.names_eq, List.mem_eraseDups]

/-- One more map keeps what an atlas shows, whether it is accepted or refused. -/
theorem HoldsFirsts.tryPush {a : Atlas} {pushed : List TokenMap} (h : a.HoldsFirsts pushed)
    (m : TokenMap) : (a.tryPush m).HoldsFirsts (pushed ++ [m]) := by
  by_cases hname : m.name ∈ a.names
  · -- A refused map comes after another of its name, so it is neither a first name nor a first map.
    have hrefused : a.push m = .error (.duplicateName m.name) := push_eq_error_iff.2 ⟨hname, rfl⟩
    have hpushed : m.name ∈ pushed.map TokenMap.name := h.mem_names_iff.1 hname
    rw [tryPush_of_error hrefused]
    constructor
    · rw [h.names_eq, List.map_append, List.map_singleton, eraseDups_concat, if_pos hpushed,
        List.append_nil]
    · intro name
      rw [h.get?_eq, List.find?_append]
      by_cases hm : m.name = name
      · rw [Option.or_of_isSome (isSome_find?_name (hm ▸ hpushed))]
      · simp [hm]
  · have hmaps := maps_tryPush hname
    have hpushed : m.name ∉ pushed.map TokenMap.name := fun hmem => hname (h.mem_names_iff.2 hmem)
    constructor
    · show (a.tryPush m).maps.map TokenMap.name = _
      rw [hmaps, List.map_append, List.map_append, List.map_singleton, eraseDups_concat,
        if_neg hpushed, ← h.names_eq, names]
    · intro name
      show (a.tryPush m).maps.find? (·.name == name) = _
      rw [hmaps, List.find?_append, List.find?_append, ← h.get?_eq]
      rfl

/-- The induction is on what is still to be pushed; what was pushed before grows. -/
theorem HoldsFirsts.pushAll {a : Atlas} {before : List TokenMap} (h : a.HoldsFirsts before)
    (ms : List TokenMap) : (a.pushAll ms).HoldsFirsts (before ++ ms) := by
  induction ms generalizing a before with
  | nil =>
    rw [List.append_nil]
    exact h
  | cons m ms ih =>
    have hrest := ih (h.tryPush m)
    rw [List.append_assoc] at hrest
    exact hrest

theorem holdsFirsts_pushAll (ms : List TokenMap) : (empty.pushAll ms).HoldsFirsts ms :=
  holdsFirsts_empty.pushAll ms

/-- The first map with a name is accepted, so the names that were accepted are those that were
    pushed. -/
theorem acceptedIn_iff_mem {pushed : List TokenMap} {name : String} :
    AcceptedIn pushed name ↔ name ∈ pushed.map TokenMap.name := by
  constructor
  · rintro ⟨earlier, m, later, rfl, rfl, -⟩
    simp
  · intro hname
    obtain ⟨m, hm⟩ := Option.isSome_iff_exists.1 (isSome_find?_name hname)
    obtain ⟨hmName, earlier, later, rfl, hearlier⟩ := List.find?_eq_some_iff_append.1 hm
    obtain rfl : m.name = name := by simpa using hmName
    refine ⟨earlier, m, later, rfl, rfl, ?_⟩
    -- No map before it has its name, so the atlas has none with that name either.
    have hfresh : m.name ∉ (empty.pushAll earlier).names := by
      rw [(holdsFirsts_pushAll earlier).mem_names_iff, List.mem_map]
      rintro ⟨m', hm', hsame⟩
      have hne := hearlier m' hm'
      simp [hsame] at hne
    exact ⟨⟨_, nodup_append_singleton hfresh⟩, push_eq_ok_iff.2 ⟨hfresh, rfl⟩⟩

/-- What comes of pushing maps one after the other onto the atlas without maps, where refusals do
    not stop the run.

* At every point a map is refused just when one with its name was accepted before, and the refusal
  names it.  Then all answers are the same as before it was pushed.
* In the end the names are those that were pushed, without the repetitions and in the order in which
  they first came, and under each of them there is the map that was pushed first. -/
theorem pushAll_holds_firsts :
    (∀ (before : List TokenMap) (m : TokenMap),
      (∀ e, (empty.pushAll before).push m = .error e ↔
        e = .duplicateName m.name ∧ AcceptedIn before m.name) ∧
      (AcceptedIn before m.name →
        (empty.pushAll (before ++ [m])).names = (empty.pushAll before).names ∧
        (empty.pushAll (before ++ [m])).size = (empty.pushAll before).size ∧
        (∀ name, (empty.pushAll (before ++ [m])).get? name = (empty.pushAll before).get? name) ∧
        ∀ token,
          (empty.pushAll (before ++ [m])).contains token = (empty.pushAll before).contains token ∧
          (empty.pushAll (before ++ [m])).resolve? token =
            (empty.pushAll before).resolve? token)) ∧
    ∀ ms : List TokenMap,
      (empty.pushAll ms).names = (ms.map TokenMap.name).eraseDups ∧
      (empty.pushAll ms).names.Nodup ∧
      (empty.pushAll ms).size = (ms.map TokenMap.name).eraseDups.length ∧
      ∀ name, (empty.pushAll ms).get? name = ms.find? (·.name == name) := by
  refine ⟨fun before m => ?_, fun ms => ?_⟩
  · have hmem : m.name ∈ (empty.pushAll before).names ↔ AcceptedIn before m.name := by
      rw [(holdsFirsts_pushAll before).mem_names_iff, acceptedIn_iff_mem]
    refine ⟨fun e => ?_, fun haccepted => ?_⟩
    · rw [push_eq_error_iff, hmem, and_comm]
    · have hrefused : (empty.pushAll before).push m = .error (.duplicateName m.name) :=
        push_eq_error_iff.2 ⟨hmem.2 haccepted, rfl⟩
      rw [pushAll_concat, tryPush_of_error hrefused]
      exact ⟨rfl, rfl, fun _ => rfl, fun _ => ⟨rfl, rfl⟩⟩
  · have hfirsts := holdsFirsts_pushAll ms
    refine ⟨hfirsts.names_eq, (empty.pushAll ms).nodup, ?_, hfirsts.get?_eq⟩
    rw [← hfirsts.names_eq]
    show (empty.pushAll ms).maps.length = _
    simp [names]

/-- The empty name is a name like any other, and a map of another kind is refused under it. -/
theorem pushAll_holds_firsts_empty_name :
    let first : TokenMap := .patterns { Recognizer.letter with name := "" }
    let second : TokenMap := .characters (Table.empty "")
    (empty.pushAll [first, .macros (Table.empty "m")]).push second = .error (.duplicateName "") ∧
      (empty.pushAll [first, .macros (Table.empty "m"), second]).names = ["", "m"] ∧
      (empty.pushAll [first, .macros (Table.empty "m"), second]).get? "" = some first ∧
      (empty.pushAll [first, .macros (Table.empty "m"), second]).resolve? "x" =
        (empty.pushAll [first, .macros (Table.empty "m")]).resolve? "x" := by
  intro first second
  have haccepted : AcceptedIn [first, .macros (Table.empty "m")] second.name :=
    ⟨[], first, [.macros (Table.empty "m")], rfl, rfl, _, rfl⟩
  obtain ⟨hrun, hend⟩ := pushAll_holds_firsts
  obtain ⟨herror, hsame⟩ := hrun [first, .macros (Table.empty "m")] second
  obtain ⟨hnames, -, -, hget⟩ := hend [first, .macros (Table.empty "m"), second]
  refine ⟨(herror _).2 ⟨rfl, haccepted⟩, ?_, ?_, ((hsame haccepted).2.2.2 "x").2⟩
  · rw [hnames]
    decide
  · rw [hget]
    rfl

end TokenAtlas.Atlas
