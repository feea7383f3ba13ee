import Mathlib.Data.List.Perm.Basic
import Mathlib.Data.List.Sort
import Mathlib.Order.Defs.LinearOrder

namespace Async

/-- The rows of a query, the greatest key first; rows of one key stand in any order. -/
structure Descending {α τ : Type} [LinearOrder τ] (key : α → τ) (rows : List α) where
  list : List α
  perm : list.Perm rows
  sorted : list.Pairwise fun a b => key b ≤ key a

/-- The page `n` of a list, counted from zero. -/
def page {α : Type} (limit n : Nat) (list : List α) : List α := (list.drop (n * limit)).take limit

section

variable {α τ : Type} [LinearOrder τ] (key : α → τ) (rows : List α)

/-- How many rows come before those of key `t`. -/
def before (t : τ) : Nat := rows.countP fun row => t < key row

/-- How many rows there are up to the last one of key `t`. -/
def upTo (t : τ) : Nat := rows.countP fun row => t ≤ key row

/-- Rows of one key stand on both sides of the end of a page. -/
def Straddles (limit : Nat) : Prop :=
  ∃ row ∈ rows, ∃ n, before key rows (key row) < n * limit ∧ n * limit < upTo key rows (key row)

end

variable {α τ : Type} [LinearOrder τ] {key : α → τ} {rows list : List α} {limit : Nat} {row : α}

theorem pages_from (limit n m : Nat) (list : List α) :
    ((List.range m).flatMap fun i => page limit (n + i) list) = (list.drop (n * limit)).take (m * limit) := by
  induction m with
  | zero => simp
  | succ m ih =>
    rw [List.range_succ, List.flatMap_append, ih, List.flatMap_singleton, page, Nat.add_mul, ← List.drop_drop,
      Nat.succ_mul, List.take_add]

/-- The pages of a list up to some page, and those of another list from there on. -/
theorem pages_of_two {answers : Nat → List α} {first second : List α} {n : Nat} (limit m : Nat)
    (front : ∀ i < n, answers i = first) (back : ∀ i, n ≤ i → answers i = second) :
    ((List.range (n + m)).flatMap fun i => page limit i (answers i)) =
      first.take (n * limit) ++ (second.drop (n * limit)).take (m * limit) := by
  have start : ((List.range n).flatMap fun i => page limit i (answers i)) = first.take (n * limit) := by
    have pages := pages_from limit 0 n first
    rw [Nat.zero_mul, List.drop_zero] at pages
    rw [← pages]
    refine List.flatMap_congr fun i member => ?_
    rw [front i (List.mem_range.mp member), Nat.zero_add]
  have rest : ((List.range m).flatMap fun i => page limit (n + i) (answers (n + i))) =
      (second.drop (n * limit)).take (m * limit) := by
    rw [← pages_from]
    refine List.flatMap_congr fun i _ => ?_
    rw [back (n + i) (Nat.le_add_right n i)]
  rw [List.range_add, List.flatMap_append, List.flatMap_map, start, rest]

theorem page_ne_nil {n : Nat} (limited : 0 < limit) : page limit n list ≠ [] ↔ n * limit < list.length := by
  rw [page, Ne, List.take_eq_nil_iff, List.drop_eq_nil_iff]
  omega

theorem take_ge_drop (sorted : list.Pairwise fun a b => key b ≤ key a) (m : Nat) :
    ∀ a ∈ list.take m, ∀ b ∈ list.drop m, key b ≤ key a := by
  rw [← List.take_append_drop m list] at sorted
  exact (List.pairwise_append.mp sorted).2.2

theorem countP_split (perm : list.Perm rows) (m : Nat) (test : α → Bool) :
    rows.countP test = (list.take m).countP test + (list.drop m).countP test := by
  rw [← perm.countP_eq, ← List.countP_append, List.take_append_drop]

theorem before_lt_of_mem_take {m : Nat} (sorted : list.Pairwise fun a b => key b ≤ key a) (perm : list.Perm rows)
    (member : row ∈ list.take m) : before key rows (key row) < m := by
  have none : (list.drop m).countP (fun other => key row < key other) = 0 := by
    rw [List.countP_eq_zero]
    intro other behind
    simpa using take_ge_drop sorted m row member other behind
  have fewer : (list.take m).countP (fun other => key row < key other) < (list.take m).length := by
    refine lt_of_le_of_ne List.countP_le_length fun all => ?_
    have self := List.countP_eq_length.mp all row member
    simp at self
  have fits := List.length_take_le m list
  rw [before, countP_split perm m, none]
  omega

/-- Where no rows straddle, a row behind the end of a page has its place there by its key. -/
theorem le_before_of_mem_drop {n : Nat} (sorted : list.Pairwise fun a b => key b ≤ key a) (perm : list.Perm rows)
    (apart : ¬Straddles key rows limit) (member : row ∈ list.drop (n * limit)) :
    n * limit ≤ before key rows (key row) := by
  refine not_lt.mp fun below => ?_
  have there : row ∈ rows := perm.subset (List.mem_of_mem_drop member)
  have whole : upTo key rows (key row) ≤ n * limit := not_lt.mp fun more => apart ⟨row, there, n, below, more⟩
  have all : (list.take (n * limit)).countP (fun other => key row ≤ key other) = (list.take (n * limit)).length := by
    refine List.countP_eq_length.mpr fun other ahead => ?_
    simpa using take_ge_drop sorted (n * limit) other ahead row member
  have self : 0 < (list.drop (n * limit)).countP fun other => key row ≤ key other :=
    List.countP_pos_iff.mpr ⟨row, member, by simp⟩
  have long : n * limit < list.length := by
    have remaining := List.length_pos_of_mem member
    rw [List.length_drop] at remaining
    omega
  rw [upTo, countP_split perm (n * limit), all, List.length_take, Nat.min_eq_left long.le] at whole
  omega

/-- Where no rows straddle, a page holds the rows of the keys that belong on it. -/
theorem page_eq_filter {n : Nat} (sorted : list.Pairwise fun a b => key b ≤ key a) (perm : list.Perm rows)
    (apart : ¬Straddles key rows limit) (limited : 0 < limit) :
    page limit n list = list.filter fun row => before key rows (key row) / limit = n := by
  have next : (n + 1) * limit = n * limit + limit := Nat.succ_mul n limit
  have early : ∀ row ∈ list.take (n * limit), ¬before key rows (key row) / limit = n := by
    intro row member is
    have below := before_lt_of_mem_take sorted perm member
    rw [Nat.div_eq_iff limited] at is
    omega
  have late : ∀ row ∈ list.drop ((n + 1) * limit), ¬before key rows (key row) / limit = n := by
    intro row member is
    have above := le_before_of_mem_drop sorted perm apart member
    rw [Nat.div_eq_iff limited] at is
    omega
  have inside : ∀ row ∈ page limit n list, before key rows (key row) / limit = n := by
    intro row member
    have above := le_before_of_mem_drop sorted perm apart (List.mem_of_mem_take member)
    have ahead : row ∈ list.take ((n + 1) * limit) := by
      rw [next, List.take_add]
      exact List.mem_append_right _ member
    have below := before_lt_of_mem_take sorted perm ahead
    rw [Nat.div_eq_iff limited]
    omega
  have parts : list = list.take (n * limit) ++ (page limit n list ++ list.drop ((n + 1) * limit)) := by
    rw [next, ← List.drop_drop, page, List.take_append_drop, List.take_append_drop]
  conv_rhs => rw [parts, List.filter_append, List.filter_append]
  rw [List.filter_eq_nil_iff.mpr (by simpa using early), List.filter_eq_self.mpr (by simpa using inside),
    List.filter_eq_nil_iff.mpr (by simpa using late), List.nil_append, List.append_nil]

/-- The rows dealt out by the value of `index` are all of them. -/
theorem dealt_perm (index : α → Nat) (rows : List α) (count : Nat) :
    ((List.range count).flatMap fun n => rows.filter fun row => index row = n).Perm
      (rows.filter fun row => index row < count) := by
  induction count with
  | zero => simp
  | succ count ih =>
    have split := List.filter_append_perm (fun row => index row < count) (rows.filter fun row => index row < count + 1)
    rw [List.filter_filter, List.filter_filter] at split
    rw [List.range_succ, List.flatMap_append, List.flatMap_singleton]
    refine (ih.append_right _).trans ?_
    refine List.Perm.trans (List.Perm.of_eq ?_) split
    congr 1 <;> refine List.filter_congr fun row _ => ?_
    · grind
    · grind

theorem before_lt_length (member : row ∈ rows) : before key rows (key row) < rows.length := by
  refine lt_of_le_of_ne List.countP_le_length fun all => ?_
  have self := List.countP_eq_length.mp all row member
  simp at self

/-- Where no rows straddle, the pages of any answers are together the rows. -/
theorem pages_perm (answers : Nat → Descending key rows) (apart : ¬Straddles key rows limit) (limited : 0 < limit)
    {count : Nat} (enough : rows.length ≤ count * limit) :
    ((List.range count).flatMap fun n => page limit n (answers n).list).Perm rows := by
  have dealt := dealt_perm (fun row => before key rows (key row) / limit) rows count
  have all : (rows.filter fun row => before key rows (key row) / limit < count) = rows := by
    refine List.filter_eq_self.mpr fun row member => ?_
    have fits : before key rows (key row) < rows.length := before_lt_length member
    exact decide_eq_true ((Nat.div_lt_iff_lt_mul limited).mpr (fits.trans_le enough))
  rw [all] at dealt
  refine List.Perm.trans (List.Perm.flatMap_left _ fun n _ => ?_) dealt
  rw [page_eq_filter (answers n).sorted (answers n).perm apart limited]
  exact (answers n).perm.filter _

/-- Rows in the order of their keys. -/
def descending (key : α → τ) (rows : List α) : Descending key rows where
  list := rows.insertionSort fun a b => key b ≤ key a
  perm := List.perm_insertionSort _ rows
  sorted := by
    have total : Std.Total fun a b : α => key b ≤ key a := ⟨fun a b => le_total (key b) (key a)⟩
    have trans : IsTrans α fun a b => key b ≤ key a := ⟨fun _ _ _ first second => second.trans first⟩
    exact List.pairwise_insertionSort _ rows

/-- The same order with the rows of key `t` as they stand in `tied`. -/
def Descending.retied (order : Descending key rows) (t : τ) (tied : List α)
    (same : tied.Perm (order.list.filter fun row => key row = t)) : Descending key rows where
  list := order.list.filter (fun row => t < key row) ++ (tied ++ order.list.filter fun row => key row < t)
  perm := by
    have outer := List.filter_append_perm (fun row => t < key row) order.list
    have inner := List.filter_append_perm (fun row => key row = t) (order.list.filter fun row => !decide (t < key row))
    rw [List.filter_filter, List.filter_filter] at inner
    refine List.Perm.trans (List.Perm.append_left _ ?_) (outer.trans order.perm)
    refine List.Perm.trans (same.append_right _) (List.Perm.trans (List.Perm.of_eq ?_) inner)
    congr 1 <;> refine List.filter_congr fun row _ => ?_
    · grind
    · grind
  sorted := by
    have equal : ∀ row ∈ tied, key row = t := fun row member => by
      simpa using (List.mem_filter.mp (same.subset member)).2
    refine List.pairwise_append.mpr ⟨order.sorted.sublist List.filter_sublist, ?_, ?_⟩
    · refine List.pairwise_append.mpr ⟨?_, order.sorted.sublist List.filter_sublist, ?_⟩
      · refine List.pairwise_iff_forall_sublist.mpr fun {a b} pair => ?_
        rw [equal a (pair.subset (by simp)), equal b (pair.subset (by simp))]
      · intro a first b second
        have less : key b < t := by simpa using (List.mem_filter.mp second).2
        rw [equal a first]
        exact less.le
    · intro a first b second
      have more : t < key a := by simpa using (List.mem_filter.mp first).2
      rcases List.mem_append.mp second with tie | after
      · rw [equal b tie]
        exact more.le
      · have less : key b < t := by simpa using (List.mem_filter.mp after).2
        exact (less.trans more).le

theorem upTo_eq (rows : List α) (t : τ) :
    upTo key rows t = before key rows t + rows.countP fun row => key row = t := by
  unfold upTo before
  induction rows with
  | nil => rfl
  | cons row rows ih =>
    simp only [List.countP_cons, ih, decide_eq_true_eq]
    grind

/-- Rows of different keys do not straddle. -/
theorem not_straddles (distinct : (rows.map key).Nodup) (limit : Nat) : ¬Straddles key rows limit := by
  rintro ⟨row, _, n, starts, ends⟩
  have once := List.nodup_iff_count_le_one.mp distinct (key row)
  have counted : (rows.map key).count (key row) = rows.countP fun other => key other = key row := by
    rw [List.count, List.countP_map]
    rfl
  rw [upTo_eq, ← counted] at ends
  omega

/-- The page that ends in the rows `tied` of one key, and what comes after it. -/
theorem Descending.retied_ends (order : Descending key rows) (place : Nat) {t : τ} {tied rest : List α} {x : α}
    (same : (tied ++ x :: rest).Perm (order.list.filter fun row => key row = t))
    (counted : place = before key rows t + tied.length) :
    (order.retied t _ same).list.take (place + 1) =
        order.list.filter (fun row => t < key row) ++ tied ++ [x] ∧
      (order.retied t _ same).list.drop place = x :: rest ++ order.list.filter fun row => key row < t := by
  have ahead : (order.list.filter fun row => t < key row).length = before key rows t := by
    rw [← List.countP_eq_length_filter, order.perm.countP_eq]
    rfl
  have here : (order.list.filter (fun row => t < key row) ++ tied).length = place := by
    rw [List.length_append, ahead, counted]
  have list : (order.retied t _ same).list = (order.list.filter (fun row => t < key row) ++ tied) ++
      ([x] ++ (rest ++ order.list.filter fun row => key row < t)) := by
    simp [Descending.retied]
  rw [list]
  constructor
  · have whole : (order.list.filter (fun row => t < key row) ++ tied ++ [x]).length = place + 1 := by
      rw [List.length_append, here, List.length_singleton]
    rw [← List.append_assoc, List.take_left' whole]
  · rw [List.drop_left' here]
    rfl

theorem two_after {d : Nat} (long : d + 1 < list.length) :
    ∃ front x y rest, list = front ++ x :: y :: rest ∧ front.length = d := by
  refine ⟨list.take d, list[d], list[d + 1], list.drop (d + 2), ?_, by simp; omega⟩
  rw [← List.drop_eq_getElem_cons, ← List.drop_eq_getElem_cons, List.take_append_drop]

/-- Where rows straddle, two orders of the same rows bring a row on two pages. -/
theorem pages_repeat (straddles : Straddles key rows limit) {count : Nat} (enough : rows.length ≤ count * limit) :
    ∃ answers : Nat → Descending key rows,
      ¬((List.range count).flatMap fun n => page limit n (answers n).list).Nodup := by
  obtain ⟨row, member, n, starts, ends⟩ := straddles
  generalize key row = t at starts ends
  have order := descending key rows
  have ties : (order.list.filter fun row => key row = t).length = rows.countP fun row => key row = t := by
    rw [← List.countP_eq_length_filter, order.perm.countP_eq]
  rw [upTo_eq, ← ties] at ends
  obtain ⟨d, place⟩ : ∃ d, n * limit = before key rows t + d + 1 := ⟨n * limit - before key rows t - 1, by omega⟩
  have long : d + 1 < (order.list.filter fun row => key row = t).length := by omega
  obtain ⟨tied, x, y, rest, parts, length⟩ := two_after long
  have kept : (tied ++ x :: y :: rest).Perm (order.list.filter fun row => key row = t) := List.Perm.of_eq parts.symm
  have swapped : (tied ++ y :: x :: rest).Perm (order.list.filter fun row => key row = t) :=
    (List.Perm.append_left _ (List.Perm.swap x y rest)).trans kept
  have moved : (tied ++ [y] ++ x :: rest).Perm (order.list.filter fun row => key row = t) := by
    simpa using swapped
  obtain ⟨m, rfl⟩ : ∃ m, count = n + (m + 1) := by
    have fits : upTo key rows t ≤ rows.length := List.countP_le_length
    rw [upTo_eq, ← ties] at fits
    have fewer : n < count := by
      refine not_le.mp fun more => ?_
      have less : count * limit ≤ n * limit := Nat.mul_le_mul_right limit more
      omega
    exact ⟨count - n - 1, by omega⟩
  have front := (order.retied_ends (before key rows t + d) kept (by rw [length])).1
  have back := (order.retied_ends (n * limit) moved (by simp [length, place]; omega)).2
  refine ⟨fun i => if i < n then order.retied t _ kept else order.retied t _ moved, fun nodup => ?_⟩
  rw [pages_of_two limit (m + 1) (fun i before => congrArg Descending.list (if_pos before))
    (fun i after => congrArg Descending.list (if_neg (not_lt.mpr after))), back, place, front] at nodup
  have again : x ∈ (x :: rest ++ order.list.filter fun row => key row < t).take ((m + 1) * limit) := by
    have limited : 0 < limit := Nat.pos_of_ne_zero fun none => by simp [none] at place
    obtain ⟨more, is⟩ : ∃ more, (m + 1) * limit = more + 1 :=
      ⟨(m + 1) * limit - 1, (Nat.sub_add_cancel (Nat.mul_pos m.succ_pos limited)).symm⟩
    rw [is]
    exact List.mem_cons_self ..
  exact (List.nodup_append.mp nodup).2.2 x (by simp) x again rfl

end Async
