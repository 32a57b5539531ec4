import TokenAtlas.Json.Printer
import TokenAtlas.TokenMap

/-!
# Atlases

An `Atlas` holds maps in the order in which they are asked, under names of which none is repeated.
The first map that knows a token decides what is found for it.
-/

namespace TokenAtlas

/-- Maps in order, each with a name of its own. -/
structure Atlas where
  maps : List TokenMap
  /-- No name is repeated. -/
  nodup : (maps.map TokenMap.name).Nodup

/-- What an atlas finds for a token: the name of the map that knows it, and what that map knows. -/
structure Resolution where
  map : String
  found : Found
  deriving BEq

namespace Resolution

/-- A resolution as a JSON object. -/
def toJson (r : Resolution) : Json := .object (("map", .string r.map) :: r.found.toMembers)

/-- The text of a resolution.  What was found is taken up into the object that holds the name of the
    map, and where that cannot be done there is no text. -/
def text (r : Resolution) : Except Json.Kind String :=
  r.found.toJson.taken.map fun members =>
    (Json.object (("map", .string r.map) :: members)).render

/-- What was found always has members, so every resolution has a text. -/
theorem text_eq (r : Resolution) : r.text = .ok r.toJson.render := rfl

end Resolution

namespace Atlas

/-- The atlas without maps. -/
def empty : Atlas := ⟨[], .nil⟩

/-- The map with a name. -/
def get? (a : Atlas) (name : String) : Option TokenMap := a.maps.find? (·.name == name)

/-- The names of the maps, in order. -/
def names (a : Atlas) : List String := a.maps.map TokenMap.name

/-- The number of maps. -/
def size (a : Atlas) : Nat := a.maps.length

/-- Whether there are no maps. -/
def isEmpty (a : Atlas) : Bool := a.maps.isEmpty

theorem nodup_append_singleton {a : Atlas} {m : TokenMap} (h : m.name ∉ a.names) :
    ((a.maps ++ [m]).map TokenMap.name).Nodup := by
  rw [List.map_append, List.nodup_append]
  refine ⟨a.nodup, by simp, fun x hx y hy => ?_⟩
  simp only [List.map_cons, List.map_nil, List.mem_singleton] at hy
  rintro rfl
  exact h (hy ▸ hx)

/-- Appends a map, unless there is one with its name. -/
def push (a : Atlas) (m : TokenMap) : Except BuildError Atlas :=
  if h : m.name ∈ a.names then .error (.duplicateName m.name)
  else .ok ⟨a.maps ++ [m], nodup_append_singleton h⟩

/-- Whether any map knows a token. -/
def contains (a : Atlas) (token : String) : Bool := a.maps.any (·.contains token)

/-- What the first map that knows a token knows of it. -/
def resolve? (a : Atlas) (token : String) : Option Resolution :=
  a.maps.findSome? fun m => (m.lookup? token).map fun found => ⟨m.name, found⟩

/-! ## What appending and asking do -/

/-- A map is appended just when there is none with its name. -/
theorem push_eq_ok_iff {a b : Atlas} {m : TokenMap} :
    a.push m = .ok b ↔ m.name ∉ a.names ∧ b.maps = a.maps ++ [m] := by
  obtain ⟨maps, hb⟩ := b
  by_cases h : m.name ∈ a.names
  · simp [push, h]
  · have hp : a.push m = .ok ⟨a.maps ++ [m], nodup_append_singleton h⟩ := by rw [push, dif_neg h]
    rw [hp, Except.ok.injEq, mk.injEq]
    exact ⟨fun e => ⟨h, e.symm⟩, fun e => e.2.symm⟩

/-- An atlas with a map of its name refuses a map. -/
theorem push_eq_error_iff {a : Atlas} {m : TokenMap} {e : BuildError} :
    a.push m = .error e ↔ m.name ∈ a.names ∧ e = .duplicateName m.name := by
  by_cases h : m.name ∈ a.names
  · have hp : a.push m = .error (.duplicateName m.name) := by rw [push, dif_pos h]
    rw [hp, Except.error.injEq]
    exact ⟨fun hd => ⟨h, hd.symm⟩, fun hd => hd.2.symm⟩
  · simp [push, h]

/-- An atlas knows the tokens that it resolves. -/
theorem contains_eq_isSome (a : Atlas) (token : String) :
    a.contains token = (a.resolve? token).isSome := by
  simp [contains, resolve?, List.isSome_findSome?, TokenMap.contains_eq_isSome]

/-! ## Listings -/

/-- A text with spaces after it up to a number of characters. -/
def padRight (width : Nat) (s : String) : String :=
  String.ofList (s.toList ++ List.replicate (width - s.length) ' ')

/-- The row of a map in a listing: name, kind, number of entries, and the pattern if it has one. -/
def row (width : Nat) (m : TokenMap) : String :=
  let columns := padRight width m.name ++ "  " ++ padRight 9 m.kind.name ++ "  " ++ m.size.repr
  match m with
  | .patterns p => columns ++ "  /" ++ p.source ++ "/\n"
  | _ => columns ++ "\n"

/-- The width of the first column of a listing: the greatest size of a name in UTF-8. -/
def nameWidth (a : Atlas) : Nat := (a.names.map String.utf8ByteSize).foldl max 0

/-- The listing of the maps, one row for each. -/
def listing (a : Atlas) : String := String.join (a.maps.map (row a.nameWidth))

/-- The greatest width to which a column can be padded. -/
def widthLimit : Nat := 65535

/-- The listing of the maps, if its first column can be padded. -/
def listing? (a : Atlas) : Option String :=
  if a.nameWidth ≤ widthLimit then some a.listing else none

end Atlas

end TokenAtlas
