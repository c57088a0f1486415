import EntityQuery.Proofs.Session.Answers
import EntityQuery.Session.Insertion
import EntityQuery.Store.Recorded

/-!
# What sessions ask of a store

The requests that reach a store, whatever store it is.

* Queries.  `Query.find_store`: a look-up that compiles is submitted once.
* Watched stores.  `Recorded.runQuery_calls` and its like say what is added to the requests
  received.
-/

namespace EntityQuery

variable {σ : Type} [EntityStore σ]

/-! ## Queries -/

namespace Query

/-- A look-up that compiles is submitted once. -/
theorem find_store {q : Query} {id : FilterValue} {columns : List String}
    {compiled : CompiledQuery} (h : (q.lookup id columns).compile = .ok compiled)
    (s : Session σ) :
    (q.find id columns s).2.store = (EntityStore.runQuery compiled.prepare s.store).2 := by
  have hlookup : ((q.withIdentity id).limitTo 1).withColumns columns = q.lookup id columns := rfl
  cases hrun : EntityStore.runQuery compiled.prepare s.store with
  | mk answer store =>
    obtain ⟨journal, hall⟩ := CompiledQuery.executeAll_eq compiled hrun
    simp only [find, first, get, hlookup, h, hall]
    cases CompiledQuery.collected answer <;> rfl

end Query

/-! ## Watched stores -/

namespace Recorded

theorem allocate_eq {key : Key} {watched : Recorded σ} {answer : Except StoreError Key} {store : σ}
    (h : EntityStore.allocate key watched.store = (answer, store)) :
    EntityStore.allocate key watched =
      (answer, (⟨store, watched.calls ++ [.allocate key answer]⟩ : Recorded σ)) := by
  show Recorded.allocate key watched = _
  rw [allocate, h]

theorem insert_eq {entity : Entity} {watched : Recorded σ} {answer : Except StoreError Key}
    {store : σ} (h : EntityStore.insert entity watched.store = (answer, store)) :
    EntityStore.insert entity watched =
      (answer, (⟨store, watched.calls ++ [.insert entity answer]⟩ : Recorded σ)) := by
  show Recorded.insert entity watched = _
  rw [insert, h]

theorem runQuery_eq {query : StoreQuery} {watched : Recorded σ}
    {answer : Except StoreError EntityStream} {store : σ}
    (h : EntityStore.runQuery query watched.store = (answer, store)) :
    EntityStore.runQuery query watched =
      (answer, (⟨store, watched.calls ++ [.query query answer]⟩ : Recorded σ)) := by
  show Recorded.runQuery query watched = _
  rw [runQuery, h]

theorem runQuery_calls (query : StoreQuery) (watched : Recorded σ) :
    (EntityStore.runQuery query watched).2.calls =
      watched.calls ++ [.query query (EntityStore.runQuery query watched.store).1] := rfl

end Recorded

end EntityQuery
