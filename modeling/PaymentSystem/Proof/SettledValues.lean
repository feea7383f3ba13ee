import PaymentSystem.Model.JsonParse

namespace PaymentModel

/-- Where one property key may stand before another: array indices ascend and come first. -/
def KeyPrecedes (a b : JsString) : Prop :=
  match arrayIndex a, arrayIndex b with
  | some i, some j => i ≤ j
  | none, some _ => False
  | _, none => True

abbrev MemberPrecedes (a b : JsString × JsonValue) : Prop := KeyPrecedes a.1 b.1

namespace JsonValue

mutual

/-- A value that `JSON.parse` can return: its numbers are doubles, and the keys of its objects are distinct and
    in property order. -/
def Settled : JsonValue → Prop
  | .number value => value.toDouble = some value
  | .array items => SettledItems items
  | .object members => (members.map Prod.fst).Nodup ∧ members.Pairwise MemberPrecedes ∧ SettledMembers members
  | .null | .bool _ | .string _ => True

def SettledItems : List JsonValue → Prop
  | [] => True
  | item :: items => item.Settled ∧ SettledItems items

def SettledMembers : List (JsString × JsonValue) → Prop
  | [] => True
  | (_, value) :: members => value.Settled ∧ SettledMembers members

end

variable {members defined : List (JsString × JsonValue)} {key : JsString} {value : JsonValue}

theorem define_keys : (define members key value).map Prod.fst =
    if key ∈ members.map Prod.fst then members.map Prod.fst else members.map Prod.fst ++ [key] := by
  have present : (members.any fun member => member.1 = key) = true ↔ key ∈ members.map Prod.fst := by simp
  unfold define
  by_cases is : key ∈ members.map Prod.fst
  · rw [if_pos (present.mpr is), if_pos is, List.map_map]
    apply List.map_congr_left
    intro member _
    dsimp only [Function.comp_apply]
    split
    · rename_i same
      exact same.symm
    · rfl
  · rw [if_neg (present.not.mpr is), if_neg is, List.map_append]
    rfl

theorem define_new (new : key ∉ members.map Prod.fst) : define members key value = members ++ [(key, value)] := by
  unfold define
  rw [if_neg]
  simpa using new

theorem define_nodup (nodup : (members.map Prod.fst).Nodup) : ((define members key value).map Prod.fst).Nodup := by
  rw [define_keys]
  split
  · exact nodup
  · rename_i new
    exact List.nodup_append.mpr ⟨nodup, List.nodup_singleton key, fun a member b single same => by
      rw [List.mem_singleton.mp single] at same
      exact new (same ▸ member)⟩

theorem foldl_define_nodup (nodup : (defined.map Prod.fst).Nodup) :
    ((members.foldl (fun defined member => define defined member.1 member.2) defined).map Prod.fst).Nodup := by
  induction members generalizing defined with
  | nil => exact nodup
  | cons member members ih => exact ih (define_nodup nodup)

/-- Distinct members are defined one after the other. -/
theorem foldl_define (nodup : ((defined ++ members).map Prod.fst).Nodup) :
    members.foldl (fun defined member => define defined member.1 member.2) defined = defined ++ members := by
  induction members generalizing defined with
  | nil => exact (List.append_nil defined).symm
  | cons member members ih =>
    have new : member.1 ∉ defined.map Prod.fst := by
      rw [List.map_append, List.map_cons] at nodup
      have apart := (List.nodup_append.mp nodup).2.2
      exact fun present => apart _ present _ List.mem_cons_self rfl
    rw [List.foldl_cons, define_new new, ih (by simpa using nodup)]
    simp

theorem memberPrecedes_index {a b : JsString × JsonValue} (first : (arrayIndex a.1).isSome = true)
    (second : (arrayIndex b.1).isSome = true) :
    MemberPrecedes a b ↔ (arrayIndex a.1).getD 0 ≤ (arrayIndex b.1).getD 0 := by
  obtain ⟨i, index⟩ := Option.isSome_iff_exists.mp first
  obtain ⟨j, index'⟩ := Option.isSome_iff_exists.mp second
  unfold MemberPrecedes KeyPrecedes
  rw [index, index']
  rfl

theorem memberPrecedes_other {a b : JsString × JsonValue} (other : (arrayIndex b.1).isNone = true) :
    MemberPrecedes a b := by
  unfold MemberPrecedes KeyPrecedes
  rw [Option.isNone_iff_eq_none.mp other]
  split <;> trivial

theorem inPropertyOrder_perm (members : List (JsString × JsonValue)) : (inPropertyOrder members).Perm members := by
  unfold inPropertyOrder
  apply ((List.perm_insertionSort _ _).append_right _).trans
  have split := List.filter_append_perm (fun member : JsString × JsonValue => (arrayIndex member.1).isSome) members
  simpa using split

theorem inPropertyOrder_ordered (members : List (JsString × JsonValue)) :
    (inPropertyOrder members).Pairwise MemberPrecedes := by
  unfold inPropertyOrder
  refine List.pairwise_append.mpr ⟨?_, ?_, ?_⟩
  · apply (List.pairwise_insertionSort _ _).imp_of_mem
    intro a b first second le
    have first := (List.mem_filter.mp ((List.mem_insertionSort _).mp first)).2
    have second := (List.mem_filter.mp ((List.mem_insertionSort _).mp second)).2
    exact (memberPrecedes_index first second).mpr le
  · apply List.pairwise_of_forall_mem_list
    intro a _ b other
    exact memberPrecedes_other (List.mem_filter.mp other).2
  · intro a _ b other
    exact memberPrecedes_other (List.mem_filter.mp other).2

theorem inPropertyOrder_eq (ordered : members.Pairwise MemberPrecedes) : inPropertyOrder members = members := by
  have sorted : (members.filter fun member => (arrayIndex member.1).isSome).Pairwise fun a b =>
      (arrayIndex a.1).getD 0 ≤ (arrayIndex b.1).getD 0 := by
    apply (ordered.filter _).imp_of_mem
    intro a b first second precedes
    exact (memberPrecedes_index (List.mem_filter.mp first).2 (List.mem_filter.mp second).2).mp precedes
  unfold inPropertyOrder
  rw [sorted.insertionSort_eq]
  clear sorted
  induction members with
  | nil => rfl
  | cons member members ih =>
    obtain ⟨first, rest⟩ := List.pairwise_cons.mp ordered
    cases index : arrayIndex member.1 with
    | some i =>
      rw [List.filter_cons_of_pos (by rw [index]; rfl),
        List.filter_cons_of_neg (by rw [index]; exact Bool.false_ne_true), List.cons_append, ih rest]
    | none =>
      -- no array index follows another key
      have others : ∀ other ∈ members, (arrayIndex other.1).isNone = true := by
        intro other present
        have precedes := first other present
        unfold MemberPrecedes KeyPrecedes at precedes
        rw [index] at precedes
        cases later : arrayIndex other.1 with
        | none => rfl
        | some j =>
          rw [later] at precedes
          exact precedes.elim
      have all : (members.filter fun member => (arrayIndex member.1).isNone) = members := List.filter_eq_self.mpr others
      have none : (members.filter fun member => (arrayIndex member.1).isSome) = [] := by
        rw [List.filter_eq_nil_iff]
        intro other present
        rw [Option.isNone_iff_eq_none.mp (others other present)]
        exact Bool.false_ne_true
      rw [List.filter_cons_of_neg (by rw [index]; exact Bool.false_ne_true), none,
        List.filter_cons_of_pos (by rw [index]; rfl), all, List.nil_append]

theorem properties_nodup (members : List (JsString × JsonValue)) : ((properties members).map Prod.fst).Nodup := by
  unfold properties
  rw [((inPropertyOrder_perm _).map Prod.fst).nodup_iff]
  exact foldl_define_nodup List.nodup_nil

theorem properties_ordered (members : List (JsString × JsonValue)) : (properties members).Pairwise MemberPrecedes :=
  inPropertyOrder_ordered _

theorem properties_eq (nodup : (members.map Prod.fst).Nodup) (ordered : members.Pairwise MemberPrecedes) :
    properties members = members := by
  unfold properties
  have defined := foldl_define (show (([] ++ members).map Prod.fst).Nodup from nodup)
  rw [defined, List.nil_append, inPropertyOrder_eq ordered]

theorem evaluateMembers_keys (members : List (JsString × JsonValue)) :
    (evaluateMembers members).map Prod.fst = members.map Prod.fst := by
  induction members with
  | nil => rfl
  | cons member members ih => rw [evaluateMembers, List.map_cons, ih, List.map_cons]

theorem pairwise_keys : members.Pairwise MemberPrecedes ↔ (members.map Prod.fst).Pairwise KeyPrecedes :=
  (List.pairwise_map (f := Prod.fst) (R := KeyPrecedes)).symm

mutual

/-- `JSON.parse` leaves the settled values as they are written, and no others. -/
theorem evaluate_eq_iff : (value : JsonValue) → (value.evaluate = value ↔ value.Settled)
  | .null | .bool _ | .string _ => ⟨fun _ => trivial, fun _ => rfl⟩
  | .number value => by
    rw [evaluate, Settled]
    cases value.toDouble with
    | none => exact ⟨nofun, nofun⟩
    | some double => simp
  | .array items => by
    rw [evaluate, Settled, ← evaluateItems_eq_iff items, JsonValue.array.injEq]
  | .object members => by
    rw [evaluate, Settled, ← evaluateMembers_eq_iff members, JsonValue.object.injEq]
    have keys := evaluateMembers_keys members
    constructor
    · intro same
      have nodup := properties_nodup (evaluateMembers members)
      have ordered := properties_ordered (evaluateMembers members)
      rw [same] at nodup ordered
      have settled := properties_eq (keys ▸ nodup) (pairwise_keys.mpr (keys ▸ pairwise_keys.mp ordered))
      exact ⟨nodup, ordered, settled.symm.trans same⟩
    · rintro ⟨nodup, ordered, same⟩
      rw [same, properties_eq nodup ordered]

theorem evaluateItems_eq_iff : (items : List JsonValue) → (evaluateItems items = items ↔ SettledItems items)
  | [] => ⟨fun _ => trivial, fun _ => rfl⟩
  | item :: items => by
    rw [evaluateItems, SettledItems, ← evaluate_eq_iff item, ← evaluateItems_eq_iff items, List.cons.injEq]

theorem evaluateMembers_eq_iff : (members : List (JsString × JsonValue)) →
    (evaluateMembers members = members ↔ SettledMembers members)
  | [] => ⟨fun _ => trivial, fun _ => rfl⟩
  | (key, value) :: members => by
    rw [evaluateMembers, SettledMembers, ← evaluate_eq_iff value, ← evaluateMembers_eq_iff members, List.cons.injEq,
      Prod.mk.injEq, and_iff_right rfl]

end

end JsonValue

end PaymentModel
