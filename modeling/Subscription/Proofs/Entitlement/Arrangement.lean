import Mathlib.Data.List.Basic
import Subscription.Entitlement.MachineToken
import Subscription.Proofs.Text.ByteOrder

/-!
# The order in which records are taken

The records of a token are taken in ascending order of their types, compared by their bytes, and
records of one type in the order of the token. A record without a type is taken as if its type were
empty. `Entitlement.Arranged` says this without naming a way to sort;
`MachineToken.arranged_sortedEntitlements` says that the records are sorted so.
-/

namespace Subscription

/-- The first list has the records of the second in ascending order of their types, those of one
type as they stand there. -/
structure Entitlement.Arranged (arranged records : List Entitlement) : Prop where
  perm : arranged.Perm records
  ascending : arranged.Pairwise fun a b =>
    Utf8.encode (a.kind.getD "") ≤ Utf8.encode (b.kind.getD "")
  stable : ∀ kind : String, arranged.filter (·.kind.getD "" == kind) =
    records.filter (·.kind.getD "" == kind)

namespace MachineToken

/-- Records are in order when their types are. -/
private theorem le_trans_kind (a b c : Entitlement) :
    decide (a.kind.getD "" ≤ b.kind.getD "") → decide (b.kind.getD "" ≤ c.kind.getD "") →
      decide (a.kind.getD "" ≤ c.kind.getD "") := by
  simp only [decide_eq_true_eq]
  exact String.le_trans

private theorem le_total_kind (a b : Entitlement) :
    (decide (a.kind.getD "" ≤ b.kind.getD "") || decide (b.kind.getD "" ≤ a.kind.getD "")) := by
  simp only [Bool.or_eq_true, decide_eq_true_eq]
  exact String.le_total _ _

theorem arranged_sortedEntitlements (token : MachineToken) :
    Entitlement.Arranged token.sortedEntitlements token.entitlements := by
  have perm : token.sortedEntitlements.Perm token.entitlements := List.mergeSort_perm _ _
  refine ⟨perm, ?_, fun kind => ?_⟩
  · refine (List.pairwise_mergeSort le_trans_kind le_total_kind token.entitlements).imp ?_
    intro a b le
    exact (Utf8.encode_le_encode_iff _ _).2 (of_decide_eq_true le)
  · -- The records of one type are in order as they stand, so sorting leaves them in this order.
    have alike : (token.entitlements.filter (·.kind.getD "" == kind)).Pairwise
        fun a b => decide (a.kind.getD "" ≤ b.kind.getD "") := by
      refine List.pairwise_of_forall_mem_list fun a ha b hb => ?_
      have hakind : a.kind.getD "" = kind := beq_iff_eq.1 (List.mem_filter.1 ha).2
      have hbkind : b.kind.getD "" = kind := beq_iff_eq.1 (List.mem_filter.1 hb).2
      rw [hakind, hbkind]
      exact decide_eq_true (String.le_refl kind)
    have kept : (token.entitlements.filter (·.kind.getD "" == kind)).Sublist
        token.sortedEntitlements :=
      List.sublist_mergeSort le_trans_kind le_total_kind alike List.filter_sublist
    have within := kept.filter (·.kind.getD "" == kind)
    rw [List.filter_filter] at within
    simp only [Bool.and_self] at within
    exact (within.eq_of_length (perm.filter _).length_eq.symm).symm

end MachineToken

end Subscription
