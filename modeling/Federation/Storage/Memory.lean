import Federation.Resolution.Sources

/-!
# Statements in memory

A fetcher that answers from a list of statements and failures, and keeps every request in order, so
that the course of a resolution can be read from it.

**Answers.**  `MemoryStore.answer?` is the view that everything is described through: one answer per
issuer and subject.
-/

namespace Federation

/-- Statements and failures to answer with, and what has been asked. -/
structure MemoryStore where
  /-- An answer for each pair of issuer and subject. -/
  answers : List ((EntityId × EntityId) × Except FetchFailure String)
  /-- All requests, the last one first. -/
  asked : List (EntityId × EntityId)

namespace MemoryStore

/-- Nothing to answer with. -/
def empty : MemoryStore := ⟨[], []⟩

/-- The answer to a request, if there is one. -/
def answer? (store : MemoryStore) (issuer subject : EntityId) :
    Option (Except FetchFailure String) :=
  store.answers.lookup (issuer, subject)

/-- The number of answers. -/
def size (store : MemoryStore) : Nat := store.answers.length

/-- All requests, in order. -/
def requests (store : MemoryStore) : List (EntityId × EntityId) := store.asked.reverse

/-- The store without an answer. -/
def erase (store : MemoryStore) (issuer subject : EntityId) : MemoryStore :=
  { store with answers := store.answers.filter fun entry => entry.1 != (issuer, subject) }

/-- Sets an answer. -/
def put (store : MemoryStore) (issuer subject : EntityId)
    (answer : Except FetchFailure String) : MemoryStore :=
  { store with answers := ((issuer, subject), answer) :: (store.erase issuer subject).answers }

/-- Forgets the requests. -/
def forget (store : MemoryStore) : MemoryStore := { store with asked := [] }

/-- Answers a request and keeps it. -/
def fetch : Fetcher MemoryStore := fun issuer subject store =>
  ((store.answer? issuer subject).getD (.error (.notFound issuer subject)),
    { store with asked := (issuer, subject) :: store.asked })

end MemoryStore

end Federation
