import SignOn.Proofs.Auth.Composite

/-!
# Merging attributes

A union treats its two sides differently. What the first list holds is kept as it is, repetitions
included; of the second list only the first occurrences of new values are added. Yet it is
associative, since a value that is added once is never added again, and whatever a list holds
already may be united with it without effect. So merging maps, which unites the values under every
name, has the laws of a union, but for the order of values.

## Main results

* `union_eq` - a union is the first list, and the first occurrences of what is new in the second
* `union_assoc`, `union_of_subset` - unions are associative and absorb what is there
* `Attributes.merge_exact` - names and values of a merge
* `Attributes.merge_laws` - merging is associative and absorbing, and empty maps change nothing but
  repetitions
-/

namespace SignOn

/-! ### Unions of value lists -/

section Union

variable {value : String} {held incoming : List String}

theorem addNew_of_mem (h : value ∈ held) : addNew held value = held :=
  if_pos (List.contains_iff_mem.2 h)

theorem addNew_of_not_mem (h : value ∉ held) : addNew held value = held ++ [value] :=
  if_neg fun hcontains => h (List.contains_iff_mem.1 hcontains)

theorem mem_addNew {new : String} : value ∈ addNew held new ↔ value ∈ held ∨ value = new := by
  by_cases h : new ∈ held
  · rw [addNew_of_mem h]
    exact ⟨.inl, fun hvalue => hvalue.elim id fun heq => heq ▸ h⟩
  · rw [addNew_of_not_mem h, List.mem_append, List.mem_singleton]

/-- Uniting with one list after the other is uniting with both. -/
theorem union_append (held xs ys : List String) :
    union held (xs ++ ys) = union (union held xs) ys :=
  List.foldl_append

theorem union_cons (held xs : List String) (x : String) :
    union held (x :: xs) = union (addNew held x) xs :=
  rfl

/-- No value of either list is lost, and none appears. -/
theorem mem_union : value ∈ union held incoming ↔ value ∈ held ∨ value ∈ incoming := by
  induction incoming generalizing held with
  | nil => simp only [union, List.foldl_nil, List.not_mem_nil, or_false]
  | cons x xs ih => rw [union_cons, ih, mem_addNew, List.mem_cons, or_assoc]

/-- A list absorbs what it holds. -/
theorem union_of_subset (h : incoming ⊆ held) : union held incoming = held := by
  induction incoming with
  | nil => rfl
  | cons x xs ih =>
    obtain ⟨hx, hxs⟩ := List.cons_subset.1 h
    rw [union_cons, addNew_of_mem hx, ih hxs]

/-- A value of the last list is added to both unions, or is held by both. -/
theorem union_assoc (xs ys zs : List String) :
    union (union xs ys) zs = union xs (union ys zs) := by
  -- The middle list grows as the last one is used up.
  induction zs generalizing ys with
  | nil => rfl
  | cons z zs ih =>
    rw [union_cons, union_cons, ← ih]
    by_cases hz : z ∈ ys
    · rw [addNew_of_mem hz, addNew_of_mem (mem_union.2 (.inr hz))]
    · rw [addNew_of_not_mem hz, union_append]
      rfl

/-- A union is the first list, followed by the first occurrences of what is new in the second. -/
theorem union_eq (held incoming : List String) :
    union held incoming = held ++ (incoming.filter (· ∉ held)).eraseDups := by
  induction incoming generalizing held with
  | nil => exact (List.append_nil held).symm
  | cons x xs ih =>
    rw [union_cons]
    by_cases hx : x ∈ held
    · rw [addNew_of_mem hx, ih, List.filter_cons_of_neg (by simpa using hx)]
    · -- From here on the value is held, so its later occurrences are dropped.
      have hdrop : xs.filter (· ∉ held ++ [x]) =
          (xs.filter (· ∉ held)).filter fun y => !y == x := by
        rw [List.filter_filter]
        refine List.filter_congr fun y _ => Bool.eq_iff_iff.2 ?_
        simp [and_comm]
      rw [addNew_of_not_mem hx, ih, List.filter_cons_of_pos (by simpa using hx),
        List.eraseDups_cons, hdrop, List.append_assoc, List.singleton_append]

example : union ["staff", "staff"] ["dev", "staff", "dev", "ops"] =
    ["staff", "staff", "dev", "ops"] := by
  decide

end Union

/-! ### Merges of attribute maps -/

namespace Attributes

variable {a b c : Attributes} {name value : String}

/-- A merge has every name that one of the maps has, with the union of the values under it. -/
theorem get?_merge_eq (a b : Attributes) (name : String) :
    (merge a b).get? name = if name ∈ a.keys ∨ name ∈ b.keys then
      some (.multi (union (valuesOf a name) (valuesOf b name))) else none := by
  rw [get?_merge]
  by_cases hb : name ∈ b.keys
  · obtain ⟨value, hvalue⟩ := TextMap.mem_keys_iff.1 hb
    have hvalues : valuesOf b name = value.values := by
      rw [valuesOf, hvalue]
      rfl
    rw [if_pos (.inr hb), hvalue, hvalues]
  · rw [valuesOf_of_not_mem hb, TextMap.get?_eq_none_iff.2 hb]
    by_cases ha : name ∈ a.keys
    · obtain ⟨value, hvalue⟩ := TextMap.mem_keys_iff.1 ha
      rw [if_pos (.inl ha), valuesOf, hvalue]
      rfl
    · rw [if_neg (not_or.2 ⟨ha, hb⟩), TextMap.get?_eq_none_iff.2 ha]
      rfl

theorem mem_keys_merge : name ∈ (merge a b).keys ↔ name ∈ a.keys ∨ name ∈ b.keys := by
  rw [TextMap.mem_keys_iff, get?_merge_eq]
  split
  next h => exact iff_of_true ⟨_, rfl⟩ h
  next h => exact iff_of_false (fun ⟨_, hsome⟩ => by cases hsome) h

theorem mem_valuesOf_merge :
    value ∈ valuesOf (merge a b) name ↔ value ∈ valuesOf a name ∨ value ∈ valuesOf b name := by
  rw [valuesOf_merge, mem_union]

/-- A merge has the names of both maps. Under each of them it has a list: the values of the first
map as they are, and the first occurrences, in their order, of those values of the second that the
first does not have. So no value of either map is lost, and none appears. -/
theorem merge_exact (current incoming : Attributes) (name : String) :
    (name ∈ (merge current incoming).keys ↔ name ∈ current.keys ∨ name ∈ incoming.keys) ∧
      (merge current incoming).get? name =
        (if name ∈ current.keys ∨ name ∈ incoming.keys then
          some (.multi (valuesOf current name ++
            ((valuesOf incoming name).filter (· ∉ valuesOf current name)).eraseDups))
        else none) ∧
      ∀ value, value ∈ valuesOf (merge current incoming) name ↔
        value ∈ valuesOf current name ∨ value ∈ valuesOf incoming name := by
  refine ⟨mem_keys_merge, ?_, fun value => mem_valuesOf_merge⟩
  rw [get?_merge_eq, union_eq]

/-! ### Laws -/

/-- Merges with the same names and the same values are the same. -/
theorem merge_congr {a' b' : Attributes}
    (hkeys : ∀ name, name ∈ a.keys ∨ name ∈ b.keys ↔ name ∈ a'.keys ∨ name ∈ b'.keys)
    (hvalues : ∀ name, union (valuesOf a name) (valuesOf b name) =
      union (valuesOf a' name) (valuesOf b' name)) :
    merge a b = merge a' b' := by
  refine TextMap.ext fun name => ?_
  simp only [get?_merge_eq, hkeys, hvalues]

theorem merge_assoc (a b c : Attributes) : merge (merge a b) c = merge a (merge b c) := by
  refine merge_congr (fun name => ?_) fun name => ?_
  · rw [mem_keys_merge, mem_keys_merge, or_assoc]
  · rw [valuesOf_merge, valuesOf_merge, union_assoc]

/-- A merge absorbs what it has. -/
theorem merge_merge_of_subset (hkeys : c.keys ⊆ (merge a b).keys)
    (hvalues : ∀ name, valuesOf c name ⊆ valuesOf (merge a b) name) :
    merge (merge a b) c = merge a b := by
  refine TextMap.ext fun name => ?_
  have hname : name ∈ (merge a b).keys ∨ name ∈ c.keys ↔ name ∈ a.keys ∨ name ∈ b.keys := by
    rw [or_iff_left_of_imp fun h => hkeys h, mem_keys_merge]
  rw [get?_merge_eq, union_of_subset (hvalues name), get?_merge_eq a b, valuesOf_merge]
  simp only [hname]

theorem merge_merge_left (a b : Attributes) : merge (merge a b) a = merge a b :=
  merge_merge_of_subset (fun _ h => mem_keys_merge.2 (.inl h))
    fun _ _ h => mem_valuesOf_merge.2 (.inl h)

theorem merge_merge_right (a b : Attributes) : merge (merge a b) b = merge a b :=
  merge_merge_of_subset (fun _ h => mem_keys_merge.2 (.inr h))
    fun _ _ h => mem_valuesOf_merge.2 (.inr h)

/-- What is merged into nothing loses its repetitions. -/
theorem empty_merge (a : Attributes) :
    merge .empty a = a.map fun value => .multi value.values.eraseDups := by
  refine TextMap.ext fun name => ?_
  rw [get?_merge, TextMap.get?_map]
  cases a.get? name with
  | none => rfl
  | some value =>
    have hunion : union [] value.values = value.values.eraseDups := union_eraseDups [] value.values
    exact congrArg (fun values => some (AttributeValue.multi values)) hunion

/-- Merging is associative and absorbs what was merged already. Merging the empty map into another
one turns its values into lists, and a map that is merged into the empty one also loses the values
that repeat earlier ones under the same name. Two maps merged either way have the same values under
every name. -/
theorem merge_laws (a b c : Attributes) :
    merge (merge a b) c = merge a (merge b c) ∧
      merge (merge a b) b = merge a b ∧ merge (merge a b) a = merge a b ∧
      merge a .empty = a.map AttributeValue.promote ∧
      merge .empty a = (a.map fun value => .multi value.values.eraseDups) ∧
      ∀ name value, value ∈ valuesOf (merge a b) name ↔ value ∈ valuesOf (merge b a) name :=
  ⟨merge_assoc a b c, merge_merge_right a b, merge_merge_left a b, rfl, empty_merge a,
    fun name value => by rw [mem_valuesOf_merge, mem_valuesOf_merge, or_comm]⟩

end Attributes

end SignOn
