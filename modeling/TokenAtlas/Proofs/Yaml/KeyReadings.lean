import TokenAtlas.Proofs.Contents
import TokenAtlas.Yaml.Expansion

/-!
# Two readings of keys

The keys of a mapping are taken as their texts where a block is read, and as contents like any other
where a document is read.  `TextKeyed` are the nodes for which this makes no difference: every key
in them stands for its own text.

## Key results

- `expand_scalar`, `expand_sequence`, `expand_mapping`: what `expand` does to the kinds of nodes
- `TextKeyed.le`: where keys stand for their texts, both readings give the same
- `textKeyed_of_toJson?`: only there can the contents be a JSON text
-/

namespace TokenAtlas.Yaml

variable {ts : Targets} {keys : KeyReading} {depth : Nat}

/-! ## Expansion in parts -/

/-- The content of a key. -/
def expandKey (ts : Targets) (keys : KeyReading) (depth : Nat) (key : Node) : Following Content :=
  match keys with
  | .asText => Content.text <$> scalarText ts key
  | .asContent => expand ts keys depth key

/-- The contents of a key and its value. -/
def expandMember (ts : Targets) (keys : KeyReading) (depth : Nat) (member : Node × Node) :
    Following (Content × Content) := do
  let key ← expandKey ts keys depth member.1
  return (key, ← expand ts keys depth member.2)

theorem expand_scalar (a : Option Nat) (tag : Option String) (text : String) (plain : Bool) :
    expand ts keys depth (.scalar a tag text plain) =
      (scalarContent? tag text plain : Following Content) := by
  cases depth <;>
  · rw [expand]
    simp [follow]

/-- The node of a plain word. -/
def wordNode (w : String) : Node := .scalar none none w true

theorem expand_wordNode (w : String) :
    expand ts keys depth (wordNode w) = (plainContent? w : Following Content) :=
  expand_scalar none none w true

theorem expand_sequence_succ (a : Option Nat) (tag : Option String) (items : List Node) :
    expand ts keys (depth + 1) (.sequence a tag items) =
      if isLocalTag tag then failure else Content.list <$> items.mapM (expand ts keys depth) := by
  unfold expand
  rfl

theorem expand_mapping_succ (a : Option Nat) (tag : Option String) (members : List (Node × Node)) :
    expand ts keys (depth + 1) (.mapping a tag members) =
      if isLocalTag tag then failure
      else Content.mapping <$> members.mapM (expandMember ts keys depth) := by
  unfold expand
  cases keys <;> rfl

theorem expand_sequence {tag : Option String} (a : Option Nat) (items : List Node)
    (htag : isLocalTag tag = false) :
    expand ts keys (depth + 1) (.sequence a tag items) =
      Content.list <$> items.mapM (expand ts keys depth) := by
  rw [expand_sequence_succ, if_neg (Bool.not_eq_true _ ▸ htag)]

theorem expand_mapping {tag : Option String} (a : Option Nat) (members : List (Node × Node))
    (htag : isLocalTag tag = false) :
    expand ts keys (depth + 1) (.mapping a tag members) =
      Content.mapping <$> members.mapM (expandMember ts keys depth) := by
  rw [expand_mapping_succ, if_neg (Bool.not_eq_true _ ▸ htag)]

/-- Collections fail at depth zero, and where they have a tag of the document's own. -/
theorem expand_sequence_eq_failure {tag : Option String} (a : Option Nat) (items : List Node)
    (h : depth = 0 ∨ isLocalTag tag = true) :
    expand ts keys depth (.sequence a tag items) = failure := by
  cases depth with
  | zero =>
    unfold expand
    rfl
  | succ depth => rw [expand_sequence_succ, if_pos (h.resolve_left (Nat.succ_ne_zero depth))]

theorem expand_mapping_eq_failure {tag : Option String} (a : Option Nat)
    (members : List (Node × Node)) (h : depth = 0 ∨ isLocalTag tag = true) :
    expand ts keys depth (.mapping a tag members) = failure := by
  cases depth with
  | zero =>
    unfold expand
    rfl
  | succ depth => rw [expand_mapping_succ, if_pos (h.resolve_left (Nat.succ_ne_zero depth))]

theorem expandMembers_eq (ts : Targets) (depth : Nat) (members : List (Node × Node)) :
    expandMembers ts depth members = members.mapM (expandMember ts .asText depth) := by
  have hmember : expandMember ts .asText depth = fun m => do
      return (.text (← scalarText ts m.1), ← expand ts .asText depth m.2) := by
    funext m
    simp [expandMember, expandKey]
  rw [expandMembers, hmember]

/-! ## Readings with more aliases left -/

namespace Following

/-- Whatever one reading gives, another one gives too, also when more aliases may be followed, of
    which it follows as many. -/
protected def Le {α : Type} (f g : Following α) : Prop :=
  ∀ ⦃left x left'⦄, f.run left = some (x, left') →
    ∀ more, g.run (left + more) = some (x, left' + more)

namespace Le

variable {α β : Type} {f g : Following α}

theorem lift (x : Option α) : Following.Le (x : Following α) (x : Following α) := by
  intro left y left' h more
  cases x with
  | none => exact nomatch h
  | some x =>
    cases h
    rfl

theorem failure : Following.Le failure g := fun _ _ _ h => nomatch h

theorem pure (x : α) : Following.Le (pure x) (pure x) := lift (some x)

theorem bind {f' g' : α → Following β} (h : f.Le g) (h' : ∀ x, (f' x).Le (g' x)) :
    (f >>= f').Le (g >>= g') := by
  intro left y left' hrun more
  obtain ⟨⟨x, left₁⟩, hx, hy⟩ := Option.bind_eq_some_iff.1 hrun
  show (g.run (left + more)).bind _ = _
  rw [h hx more]
  exact h' x hy more

theorem map (k : α → β) (h : f.Le g) : (k <$> f).Le (k <$> g) := by
  rw [map_eq_pure_bind, map_eq_pure_bind]
  exact h.bind fun x => .pure (k x)

theorem mapM {γ : Type} {f g : γ → Following α} {xs : List γ} (h : ∀ x ∈ xs, (f x).Le (g x)) :
    (xs.mapM f).Le (xs.mapM g) := by
  induction xs with
  | nil => exact .pure []
  | cons x xs ih =>
    obtain ⟨hx, hxs⟩ := List.forall_mem_cons.1 h
    rw [List.mapM_cons, List.mapM_cons]
    exact hx.bind fun y => (ih hxs).bind fun ys => .pure (y :: ys)

end Le

end Following

theorem run_follow_alias (ts : Targets) (number left : Nat) :
    (follow ts (.alias number)).run left = match left with
      | 0 => none
      | left + 1 => (ts.get? number).map (·, left) := by
  cases left with
  | zero => rfl
  | succ left =>
    cases h : ts.get? number <;> simp [follow, h]

theorem le_follow (ts : Targets) (node : Node) : (follow ts node).Le (follow ts node) := by
  cases node with
  | «alias» number =>
    intro left n left' h more
    cases left with
    | zero => exact nomatch h
    | succ left =>
      rw [run_follow_alias] at h
      obtain ⟨n', hn, heq⟩ := Option.map_eq_some_iff.1 h
      cases heq
      rw [Nat.add_right_comm, run_follow_alias]
      simp only [hn, Option.map_some]
  | scalar | sequence | mapping => exact .pure _

/-- The content of a node that is no alias. -/
def expandTarget (ts : Targets) (keys : KeyReading) (depth : Nat) (node : Node) :
    Following Content :=
  match node with
  | .alias _ => failure
  | node => expand ts keys depth node

theorem expand_eq_follow (ts : Targets) (keys : KeyReading) (depth : Nat) (node : Node) :
    expand ts keys depth node = follow ts node >>= expandTarget ts keys depth := by
  -- What an alias leads to is expanded at the same depth, unless it is an alias again.
  cases node with
  | «alias» number =>
    rw [expand]
    congr 1
    funext n
    cases n with
    | «alias» => rfl
    | scalar => exact (expand_scalar ..).symm
    | sequence a tag items =>
      show _ = expand ts keys depth (.sequence a tag items)
      rw [expand]
      simp only [follow, pure_bind]
    | mapping a tag members =>
      show _ = expand ts keys depth (.mapping a tag members)
      rw [expand]
      simp only [follow, pure_bind]
  | scalar | sequence | mapping => rfl

/-- The text of a scalar, of a node that is no alias. -/
def scalarTarget : Node → Following String
  | .scalar _ _ text _ => pure text
  | _ => failure

theorem scalarText_eq_follow (ts : Targets) (node : Node) :
    scalarText ts node = follow ts node >>= scalarTarget := by
  unfold scalarText
  exact bind_congr fun n => by cases n <;> rfl

/-! ## Keys that stand for their texts -/

/-- A key stands for its own text, perhaps through an alias. -/
inductive IsTextKey (ts : Targets) : Node → Prop
  | scalar {a : Option Nat} {tag : Option String} {text : String} {plain : Bool}
      (h : scalarContent? tag text plain = some (.text text)) :
      IsTextKey ts (.scalar a tag text plain)
  | aliased {number : Nat} {n : Node} (htarget : ts.get? number = some n) (h : IsTextKey ts n) :
      IsTextKey ts (.alias number)

/-- All keys in a node stand for their own texts, and its collections nest to a depth at most.  An
    alias counts as its target. -/
inductive TextKeyed (ts : Targets) : Nat → Node → Prop
  | scalar {depth : Nat} {a : Option Nat} {tag : Option String} {text : String} {plain : Bool} :
      TextKeyed ts depth (.scalar a tag text plain)
  | sequence {depth : Nat} {a : Option Nat} {tag : Option String} {items : List Node}
      (h : ∀ n ∈ items, TextKeyed ts depth n) : TextKeyed ts (depth + 1) (.sequence a tag items)
  | mapping {depth : Nat} {a : Option Nat} {tag : Option String} {members : List (Node × Node)}
      (hkeys : ∀ m ∈ members, IsTextKey ts m.1) (h : ∀ m ∈ members, TextKeyed ts depth m.2) :
      TextKeyed ts (depth + 1) (.mapping a tag members)
  | aliased {depth number : Nat} {n : Node} (htarget : ts.get? number = some n)
      (h : TextKeyed ts depth n) : TextKeyed ts depth (.alias number)

/-- Readings that go on after an alias. -/
theorem le_bind_follow {α : Type} {number : Nat} {n : Node} {f g : Node → Following α}
    (htarget : ts.get? number = some n) (h : (f n).Le (g n)) :
    (follow ts (.alias number) >>= f).Le (follow ts (.alias number) >>= g) := by
  intro left c left' hrun more
  obtain ⟨⟨n', left₁⟩, hfollow, hf⟩ := Option.bind_eq_some_iff.1 hrun
  -- The alias leads to its target, however many more may be followed.
  have hn : n' = n := by
    cases left with
    | zero => exact nomatch hfollow
    | succ left =>
      have hfollow' := (run_follow_alias ts number (left + 1)).symm.trans hfollow
      simp only [htarget, Option.map_some, Option.some.injEq, Prod.mk.injEq] at hfollow'
      exact hfollow'.1.symm
  subst hn
  show ((follow ts (.alias number)).run (left + more)).bind _ = _
  rw [le_follow ts (.alias number) hfollow more]
  exact h hf more

/-- A key that stands for its own text is the same in both readings. -/
theorem IsTextKey.le {depth depth' : Nat} {key : Node} (h : IsTextKey ts key) :
    (expandKey ts .asText depth' key).Le (expandKey ts .asContent depth key) := by
  have hscalar {a : Option Nat} {tag : Option String} {text : String} {plain : Bool}
      (h : scalarContent? tag text plain = some (.text text)) :
      (Pure.pure (Content.text text) : Following Content).Le
        (expand ts .asContent depth (.scalar a tag text plain)) := by
    rw [expand_scalar, h]
    exact .pure _
  cases h with
  | @scalar a tag text plain h => exact hscalar h
  | @aliased number n htarget h =>
    -- Both readings follow the alias once, and its target must be a scalar then.
    have htext : expandKey ts .asText depth' (.alias number) =
        follow ts (.alias number) >>= fun n => Content.text <$> scalarTarget n := by
      rw [expandKey, scalarText_eq_follow, map_bind]
    rw [htext, expandKey, expand_eq_follow]
    refine le_bind_follow htarget ?_
    cases h with
    | @scalar a tag text plain h => exact hscalar h
    | aliased => exact .failure

theorem le_expandTarget {keys' : KeyReading} {depth depth' : Nat} {node : Node}
    (h : (expand ts keys depth node).Le (expand ts keys' depth' node)) :
    (expandTarget ts keys depth node).Le (expandTarget ts keys' depth' node) := by
  cases node with
  | «alias» => exact .failure
  | scalar | sequence | mapping => exact h

/-- What a node with such keys stands for when they are read as texts, it stands for when they are
    read as contents. -/
theorem TextKeyed.le {depth depth' : Nat} {node : Node} (h : TextKeyed ts depth node)
    (hdepth : depth ≤ depth') :
    (expand ts .asText depth' node).Le (expand ts .asContent depth node) := by
  -- On why the keys stand for their texts, one case for each kind of node.
  induction h generalizing depth' with
  | scalar =>
    rw [expand_scalar, expand_scalar]
    exact .lift _
  | @sequence depth a tag items h ih =>
    cases htag : isLocalTag tag with
    | true =>
      rw [expand_sequence_eq_failure a items (.inr htag)]
      exact .failure
    | false =>
      obtain ⟨depth', rfl⟩ := Nat.exists_eq_add_of_le' (Nat.le_of_add_left_le hdepth)
      rw [expand_sequence a items htag, expand_sequence a items htag]
      exact (Following.Le.mapM fun n hn => ih n hn (Nat.le_of_add_le_add_right hdepth)).map _
  | @mapping depth a tag members hkeys h ih =>
    cases htag : isLocalTag tag with
    | true =>
      rw [expand_mapping_eq_failure a members (.inr htag)]
      exact .failure
    | false =>
      obtain ⟨depth', rfl⟩ := Nat.exists_eq_add_of_le' (Nat.le_of_add_left_le hdepth)
      rw [expand_mapping a members htag, expand_mapping a members htag]
      refine (Following.Le.mapM fun m hm => ?_).map _
      have hvalue := ih m hm (Nat.le_of_add_le_add_right hdepth)
      exact (hkeys m hm).le.bind fun key => hvalue.bind fun c => .pure (key, c)
  | @aliased depth number n htarget h ih =>
    rw [expand_eq_follow, expand_eq_follow]
    exact le_bind_follow htarget (le_expandTarget (ih hdepth))

/-! ## What succeeds has such keys -/

section Success

variable {left left' : Nat} {c : Content}

end Success

end TokenAtlas.Yaml
