import Mathlib.Tactic.Linarith
import PaymentSystem.Model.Listing
import PaymentSystem.Proof.WebhookCalls

namespace PaymentModel

open Async

variable {newDate : String → Option Int} {payments : List Payment} {filters : PaymentFilters} {limit : Nat}

/-- The filters of page `n`, counted from zero. -/
abbrev PaymentFilters.onPage (filters : PaymentFilters) (limit n : Nat) : PaymentListFilters :=
  { filters with page := .finite (n + 1 : Nat), limit := .finite limit }

/-- The responses to the pages 1, 2 and so on list every row exactly once, and each of them says whether a
    later page lists anything. -/
def PagesExact (rows : List Payment) (responses : Nat → PaginatedResponse) : Prop :=
  ∃ pages : Nat, (∀ n, (responses n).totalPages = .finite pages) ∧
    ((List.range pages).flatMap fun n => (responses n).data).Perm (rows.map toPaymentResponse) ∧
      ∀ n, (responses n).hasNext = true ↔ ∃ later > n, (responses later).data ≠ []

theorem natural?_natCast (n : Nat) : (Number.finite n).natural? = some n := by
  simp [Number.natural?]

theorem skip_onPage (filters : PaymentFilters) (limit n : Nat) :
    (filters.onPage limit n).skip .finite = .finite (n * limit : Nat) := by
  simp [PaymentListFilters.skip, Number.sub, Number.mul]

theorem totalPages_eq (total : Nat) (limited : 0 < limit) : ∃ pages : Nat,
    (Number.div .finite (.finite total) (.finite limit)).ceil = .finite pages ∧
      ∀ n, n < pages ↔ n * limit < total := by
  have positive : (0 : Rat) < limit := by exact_mod_cast limited
  have fraction : (0 : Rat) ≤ total / limit := div_nonneg (Nat.cast_nonneg _) positive.le
  have least : (0 : Int) ≤ ((total : Rat) / limit).ceil := by
    have above := fraction.trans Rat.le_ceil
    exact_mod_cast above
  obtain ⟨pages, is⟩ := Int.eq_ofNat_of_zero_le least
  refine ⟨pages, ?_, fun n => ?_⟩
  · simp only [Number.div, if_neg positive.ne', Number.ceil, is]
    norm_cast
  · have below := Rat.lt_ceil_iff (x := (total : Rat) / limit) (y := n)
    rw [is, lt_div_iff₀ (by exact_mod_cast positive)] at below
    exact_mod_cast below

/-- A page is answered with its part of the rows as they are returned for it. -/
theorem listPayments_onPage (accepted : (paymentWhere newDate filters).accepted = true) (limit n : Nat)
    (answer : Descending Payment.createdAt (matching newDate payments filters)) :
    listPayments newDate .finite payments (filters.onPage limit n) answer = some {
      data := (page limit n answer.list).map toPaymentResponse
      page := .finite (n + 1 : Nat)
      limit := .finite limit
      total := (matching newDate payments filters).length
      totalPages := (Number.div .finite (.finite (matching newDate payments filters).length) (.finite limit)).ceil
      hasNext := Number.lt (.finite (n + 1 : Nat))
        (Number.div .finite (.finite (matching newDate payments filters).length) (.finite limit)).ceil
      hasPrevious := Number.lt (.finite 1) (.finite (n + 1 : Nat)) } := by
  have take : (filters.onPage limit n).limit.natural? = some limit := natural?_natCast limit
  unfold listPayments paymentFindMany
  rw [if_pos accepted, skip_onPage, natural?_natCast, take]
  rfl

theorem listPayments_rejected (rejected : (paymentWhere newDate filters).accepted = false) (limit n : Nat)
    (answer : Descending Payment.createdAt (matching newDate payments filters)) :
    listPayments newDate .finite payments (filters.onPage limit n) answer = none := by
  unfold listPayments paymentFindMany
  rw [rejected]
  rfl

/-- A query that Prisma rejects asks for rows that there are not. -/
theorem matching_of_rejected (rejected : (paymentWhere newDate filters).accepted = false) :
    matching newDate payments filters = [] := by
  refine List.filter_eq_nil_iff.mpr fun payment _ holds => ?_
  have known : payment.status ∈ PaymentWhere.paymentStatuses := by
    cases payment.status <;> decide
  have dated : ∀ (test : Int → Bool) (date : Option (Option Int)), (date.all fun date => date.any test) = true →
      date.all Option.isSome = true := by
    intro test date holds
    cases date with
    | none => rfl
    | some date =>
      obtain ⟨time, is, _⟩ := (Option.any_eq_true _ _).mp holds
      rw [is]
      rfl
  simp only [PaymentWhere.holds, Bool.and_eq_true] at holds
  obtain ⟨⟨⟨status, _⟩, from_date⟩, to_date⟩ := holds
  have named : ((paymentWhere newDate filters).status.all fun text =>
      PaymentWhere.paymentStatuses.any fun status => status.text = text) = true := by
    cases is : (paymentWhere newDate filters).status with
    | none => rfl
    | some text =>
      rw [is] at status
      exact List.any_eq_true.mpr ⟨_, known, status⟩
  rw [PaymentWhere.accepted, named, dated _ _ from_date, dated _ _ to_date] at rejected
  cases rejected

theorem responses_nodup (newDate : String → Option Int) (payments : Table Uuid Payment Payment.id)
    (filters : PaymentFilters) : ((matching newDate payments.rows filters).map toPaymentResponse).Nodup := by
  have ids : ((matching newDate payments.rows filters).map Payment.id).Nodup :=
    payments.unique.sublist (List.filter_sublist.map Payment.id)
  have same : (matching newDate payments.rows filters).map Payment.id =
      ((matching newDate payments.rows filters).map toPaymentResponse).map PaymentResponse.id := by
    rw [List.map_map]
    rfl
  rw [same] at ids
  exact ids.of_map

/-- As long as the service answers, `hasNext` says whether a later page lists anything. -/
theorem hasNext_iff {responses : Nat → PaginatedResponse} {pages : Nat}
    (next : ∀ n, (responses n).hasNext = true ↔ n + 1 < pages) (lists : ∀ n, (responses n).data ≠ [] ↔ n < pages)
    (n : Nat) : (responses n).hasNext = true ↔ ∃ later > n, (responses later).data ≠ [] := by
  simp only [next, lists]
  exact ⟨fun more => ⟨n + 1, Nat.lt_succ_self n, more⟩, fun ⟨later, after, more⟩ => by omega⟩

/-- Whatever order Postgres gives to payments of one time, the pages list every matching payment once if no
    payments of one time stand on both sides of the end of a page, and only then. -/
theorem payment_pages_exact_iff (newDate : String → Option Int) (payments : Table Uuid Payment Payment.id)
    (filters : PaymentFilters) (limited : 1 ≤ limit) :
    (∀ (answers : Nat → Descending Payment.createdAt (matching newDate payments.rows filters))
      (responses : Nat → PaginatedResponse), (∀ n,
        listPayments newDate .finite payments.rows (filters.onPage limit n) (answers n) = some (responses n)) →
          PagesExact (matching newDate payments.rows filters) responses) ↔
      ¬Straddles Payment.createdAt (matching newDate payments.rows filters) limit := by
  obtain ⟨pages, totalPages, fewer⟩ := totalPages_eq (matching newDate payments.rows filters).length limited
  have enough : (matching newDate payments.rows filters).length ≤ pages * limit :=
    not_lt.mp fun more => lt_irrefl pages ((fewer pages).mpr more)
  constructor
  · intro exact straddles
    have accepted : (paymentWhere newDate filters).accepted = true := by
      refine Bool.eq_true_of_not_eq_false fun rejected => ?_
      obtain ⟨row, member, _⟩ := straddles
      rw [matching_of_rejected rejected] at member
      cases member
    obtain ⟨answers, again⟩ := pages_repeat straddles enough
    obtain ⟨count, counted, perm, _⟩ := exact answers _ fun n => listPayments_onPage accepted limit n (answers n)
    obtain rfl : pages = count := by
      have same := totalPages.symm.trans (counted 0)
      simpa using same
    have nodup := perm.nodup_iff.mpr (responses_nodup newDate payments filters)
    rw [← List.map_flatMap] at nodup
    exact again nodup.of_map
  · intro apart answers responses answered
    have accepted : (paymentWhere newDate filters).accepted = true := by
      refine Bool.eq_true_of_not_eq_false fun rejected => ?_
      have first := answered 0
      rw [listPayments_rejected rejected] at first
      cases first
    have response : ∀ n, responses n = _ := fun n =>
      Option.some.inj ((answered n).symm.trans (listPayments_onPage accepted limit n (answers n)))
    have next : ∀ n, (responses n).hasNext = true ↔ n + 1 < pages := by
      intro n
      rw [response, totalPages]
      simp only [Number.lt, decide_eq_true_eq, Nat.cast_lt]
    have lists : ∀ n, (responses n).data ≠ [] ↔ n < pages := by
      intro n
      rw [response, fewer, Ne, List.map_eq_nil_iff, ← Ne, page_ne_nil limited, (answers n).perm.length_eq]
    refine ⟨pages, fun n => by rw [response, totalPages], ?_, hasNext_iff next lists⟩
    have perm := (pages_perm answers apart limited enough).map toPaymentResponse
    rw [List.map_flatMap] at perm
    simpa only [response] using perm

/-- The sample payment with another id, made at `createdAt`. -/
def paymentAt (token : Char) (createdAt : Nat) : Payment := { processingRow with id := sampleId token, createdAt }

def spacedPayments : Table Uuid Payment Payment.id :=
  ⟨[paymentAt '0' 1000, paymentAt '1' 2000, paymentAt 'a' 3000], by decide⟩

theorem payment_pages_exact_spaced :
    ¬Straddles Payment.createdAt (matching (fun _ => none) spacedPayments.rows {}) 2 ∧
    ∀ (answers : Nat → Descending Payment.createdAt (matching (fun _ => none) spacedPayments.rows {}))
      (responses : Nat → PaginatedResponse),
      (∀ n, listPayments (fun _ => none) .finite spacedPayments.rows (PaymentFilters.onPage {} 2 n) (answers n) =
        some (responses n)) → PagesExact (matching (fun _ => none) spacedPayments.rows {}) responses := by
  have apart : ¬Straddles Payment.createdAt (matching (fun _ => none) spacedPayments.rows {}) 2 :=
    not_straddles (by decide) 2
  exact ⟨apart, (payment_pages_exact_iff (fun _ => none) spacedPayments {} (by decide)).mpr apart⟩

def tiedPayments : Table Uuid Payment Payment.id := ⟨[paymentAt '0' 1000, paymentAt '1' 1000], by decide⟩

/-- Two payments of one time on pages of one payment each: the second page may list the payment of the first
    one again. -/
theorem tied_payments_repeat :
    ∃ (answers : Nat → Descending Payment.createdAt (matching (fun _ => none) tiedPayments.rows {}))
      (responses : Nat → PaginatedResponse),
      (∀ n, listPayments (fun _ => none) .finite tiedPayments.rows (PaymentFilters.onPage {} 1 n) (answers n) =
        some (responses n)) ∧
      ¬PagesExact (matching (fun _ => none) tiedPayments.rows {}) responses := by
  have rows : matching (fun _ => none) tiedPayments.rows {} = [paymentAt '0' 1000, paymentAt '1' 1000] := rfl
  let forward : Descending Payment.createdAt (matching (fun _ => none) tiedPayments.rows {}) :=
    ⟨[paymentAt '0' 1000, paymentAt '1' 1000], List.Perm.refl _, by decide⟩
  let backward : Descending Payment.createdAt (matching (fun _ => none) tiedPayments.rows {}) :=
    ⟨[paymentAt '1' 1000, paymentAt '0' 1000], List.Perm.swap _ _ _, by decide⟩
  refine ⟨fun n => if n = 0 then forward else backward, _, fun n => listPayments_onPage rfl 1 n _, ?_⟩
  rintro ⟨pages, counted, perm, _⟩
  have two : pages = 2 := by
    have total := (counted 0).symm.trans (by decide +kernel : _ = Number.finite (2 : Nat))
    exact_mod_cast Number.finite.inj total
  subst two
  have ids := perm.map PaymentResponse.id
  exact absurd ids (by decide +kernel)

end PaymentModel
