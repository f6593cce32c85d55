import Subscription.Store.Basic

/-!
# A store in memory

The entries themselves are the state. Every key has a place, and nothing ever fails.
-/

namespace Subscription

/-- The store whose state is its entries. -/
def Store.memory : Store (Keyed Json) where
  read key := Action.ofStep fun entries => (.ok (entries.get? key), entries)
  write key value := Action.ofStep fun entries => (.ok (), entries.insert key value)
  delete key := Action.ofStep fun entries => (.ok (), entries.erase key)

end Subscription
