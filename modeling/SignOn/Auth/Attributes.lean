import SignOn.TextMap.Lemmas

/-!
# Attributes

Principals and authentications carry named attributes with one or more values. Attributes of several
sources are merged by union: nothing is overwritten, values that are already there are not repeated,
and every value becomes multi-valued.

## Main definitions

* `AttributeValue` - one value or a list of values
* `Attributes` - attribute values by name
* `Attributes.valuesOf` - the values under a name, none if the name is absent
* `union` - the values of one list and the new ones of another
* `Attributes.merge` - the union of two attribute maps

## Main results

* `Attributes.get?_merge` - what a merge holds under a name
* `Attributes.valuesOf_merge` - the values of a merge are a union
-/

namespace SignOn

/-- The value of an attribute. -/
inductive AttributeValue where
  | single (value : String)
  | multi (values : List String)
  deriving DecidableEq, Repr

namespace AttributeValue

/-- The values, of which a single value is the only one. -/
def values : AttributeValue → List String
  | single value => [value]
  | multi values => values

/-- The first value, if there is one. -/
def first? (a : AttributeValue) : Option String := a.values.head?

/-- The same values as a list. -/
def promote (a : AttributeValue) : AttributeValue := multi a.values

end AttributeValue

/-- Attribute values by name. -/
abbrev Attributes := TextMap AttributeValue

/-! ### Union of value lists -/

/-- Appends a value that is not there yet. -/
def addNew (held : List String) (value : String) : List String :=
  if held.contains value then held else held ++ [value]

/-- The values held, as they are, followed by the incoming values that are not there yet. -/
def union (held incoming : List String) : List String := incoming.foldl addNew held

namespace Attributes

/-- The values under a name. -/
def valuesOf (a : Attributes) (name : String) : List String :=
  ((a.get? name).map AttributeValue.values).getD []

/-- Adds the values of one attribute to those held under its name. -/
def mergeEntry (merged : Attributes) (entry : String × AttributeValue) : Attributes :=
  merged.insert entry.1 (.multi (union (valuesOf merged entry.1) entry.2.values))

/-- The union of two attribute maps, in which every attribute has a list of values. -/
def merge (current incoming : Attributes) : Attributes :=
  incoming.entries.foldl mergeEntry (current.map AttributeValue.promote)

/-! ### Look-ups in a merge -/

theorem valuesOf_map_promote (a : Attributes) (name : String) :
    valuesOf (a.map AttributeValue.promote) name = valuesOf a name := by
  simp only [valuesOf, TextMap.get?_map]
  cases a.get? name <;> rfl

theorem get?_foldl_mergeEntry {entries : List (String × AttributeValue)}
    (hs : TextMap.Sorted entries) (merged : Attributes) (name : String) :
    (entries.foldl mergeEntry merged).get? name =
      match TextMap.lookup name entries with
      | none => merged.get? name
      | some value => some (.multi (union (valuesOf merged name) value.values)) := by
  induction entries generalizing merged with
  | nil => rfl
  | cons entry rest ih =>
    obtain ⟨k, value⟩ := entry
    obtain ⟨hk, hrest⟩ := List.pairwise_cons.1 hs
    rw [List.foldl_cons, ih hrest]
    simp only [TextMap.lookup]
    by_cases hn : name = k
    · subst hn
      have hnone : TextMap.lookup name rest = none := by
        refine Option.eq_none_iff_forall_ne_some.2 fun a ha => ?_
        exact String.lt_irrefl _ (hk (name, a) (TextMap.mem_of_lookup ha))
      simp [hnone, mergeEntry]
    · have hget : (mergeEntry merged (k, value)).get? name = merged.get? name :=
        TextMap.get?_insert_of_ne _ _ hn
      have hvals : valuesOf (mergeEntry merged (k, value)) name = valuesOf merged name := by
        simp only [valuesOf, hget]
      simp only [hn, if_false, hget, hvals]

/-- A merge keeps what only the current map holds, as a list, and otherwise holds the union. -/
theorem get?_merge (current incoming : Attributes) (name : String) :
    (merge current incoming).get? name =
      match incoming.get? name with
      | none => (current.get? name).map AttributeValue.promote
      | some value => some (.multi (union (valuesOf current name) value.values)) := by
  rw [merge, get?_foldl_mergeEntry incoming.sorted, valuesOf_map_promote, TextMap.get?_map]
  rfl

/-- The values of a merge are the union of the values of both maps. -/
theorem valuesOf_merge (current incoming : Attributes) (name : String) :
    valuesOf (merge current incoming) name =
      union (valuesOf current name) (valuesOf incoming name) := by
  simp only [valuesOf, get?_merge]
  cases incoming.get? name with
  | some value => rfl
  | none => cases current.get? name <;> rfl

end Attributes

end SignOn
