import TokenAtlas.Setting

/-!
# Tables

A `Table` maps tokens to entries of one kind.  A token has at most one entry, the one that was added
last, and tables are compared and listed by token, not by the order of additions.

`Table.ofSettings` adds settings one after the other and stops at the first that is refused.
`Table.ofBlock` first reads all values of a block, in the order of their keys, and only then adds
them: a value of the wrong shape is reported before an entry that is refused, wherever they stand.
-/

namespace TokenAtlas

/-- A named map from tokens to entries. -/
structure Table (ε : Type) where
  name : String
  entries : Fields ε

namespace Table

variable {ε σ δ : Type}

/-- The table without entries. -/
def empty (name : String) : Table ε := ⟨name, .empty⟩

/-- The entry of a token. -/
def lookup? (t : Table ε) (token : String) : Option ε := t.entries.get? token

/-- Whether a token has an entry. -/
def contains (t : Table ε) (token : String) : Bool := t.entries.contains token

/-- The tokens that have entries, in increasing order. -/
def tokens (t : Table ε) : List String := t.entries.names

/-- The number of tokens that have entries. -/
def size (t : Table ε) : Nat := t.entries.size

/-- Whether no token has an entry. -/
def isEmpty (t : Table ε) : Bool := t.entries.isEmpty

/-- Adds an entry for a token, in the place of the one that it had before. -/
def insert (t : Table ε) (token : String) (e : ε) : Table ε :=
  { t with entries := t.entries.insert token e }

section

variable [TableEntry ε σ δ]

/-- Adds the entry that a token gets from a descriptor. -/
def add (t : Table ε) (token : String) (descriptor : δ) : Except BuildError (Table ε) :=
  match TableEntry.make token descriptor with
  | .ok e => .ok (t.insert token e)
  | .error fault => .error (.entry t.name token fault)

/-- Adds settings one after the other, up to the first that is refused. -/
def addAll (t : Table ε) : List (String × σ) → Except BuildError (Table ε)
  | [] => .ok t
  | (token, setting) :: rest =>
    match t.add token (TableEntry.expand ε setting) with
    | .ok t => t.addAll rest
    | .error e => .error e

/-- The table with the entries of a list of settings. -/
def ofSettings (name : String) (settings : List (String × σ)) : Except BuildError (Table ε) :=
  (empty name : Table ε).addAll settings

variable (ε) in
/-- Reads the value of a key. -/
def readSetting (name key : String) (j : Json) : Except BuildError σ :=
  match TableEntry.read ε j with
  | .error how => .error (.entry name key (.malformed how))
  | .ok setting => .ok setting

variable (ε) in
/-- Reads the values of a list, up to the first that is no setting. -/
def readSettings (name : String) :
    List (String × Json) → Except BuildError (List (String × σ))
  | [] => .ok []
  | (key, j) :: rest =>
    match readSetting ε name key j with
    | .error e => .error e
    | .ok setting => (readSettings name rest).map ((key, setting) :: ·)

/-- The table with the entries of a block. -/
def ofBlock (name : String) (b : Block) : Except BuildError (Table ε) :=
  match readSettings ε name b.toList with
  | .ok settings => ofSettings name settings
  | .error e => .error e

end

/-! ## Look-ups after additions -/

@[simp] theorem lookup?_empty (name token : String) :
    (empty name : Table ε).lookup? token = none := rfl

theorem lookup?_insert (t : Table ε) (token other : String) (e : ε) :
    (t.insert token e).lookup? other = if token = other then some e else t.lookup? other :=
  t.entries.get?_insert token other e

@[simp] theorem name_insert (t : Table ε) (token : String) (e : ε) :
    (t.insert token e).name = t.name := rfl

theorem contains_eq_isSome (t : Table ε) (token : String) :
    t.contains token = (t.lookup? token).isSome := rfl

theorem mem_tokens_iff (t : Table ε) (token : String) : token ∈ t.tokens ↔ t.contains token :=
  Fields.contains_iff_mem_names.symm

theorem length_tokens (t : Table ε) : t.tokens.length = t.size := t.entries.length_names

theorem nodup_tokens (t : Table ε) : t.tokens.Nodup := t.entries.nodup_names

end Table

end TokenAtlas
