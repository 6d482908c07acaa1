/-!
# Queues

A queue grows at its end and is emptied at once. It is stored newest first so
that `push` takes constant time; `toList` is the view, oldest first.
-/

namespace SessionLayer

/-- What waits to be fetched, stored newest first. -/
structure Queue (α : Type) where
  newestFirst : List α
  deriving DecidableEq

namespace Queue

variable {α : Type}

/-- The queue in which nothing waits. -/
def empty : Queue α := ⟨[]⟩

instance : Inhabited (Queue α) := ⟨empty⟩

/-- Everything that waits, oldest first. -/
def toList (queue : Queue α) : List α := queue.newestFirst.reverse

/-- Adds one item at the end. -/
def push (queue : Queue α) (item : α) : Queue α := ⟨item :: queue.newestFirst⟩

/-- Adds items at the end, the first of them first. -/
def append (queue : Queue α) (items : List α) : Queue α := items.foldl push queue

@[simp] theorem toList_empty : (empty : Queue α).toList = [] := rfl

@[simp] theorem toList_push (queue : Queue α) (item : α) :
    (queue.push item).toList = queue.toList ++ [item] := by
  simp [toList, push]

@[simp] theorem toList_append (queue : Queue α) (items : List α) :
    (queue.append items).toList = queue.toList ++ items := by
  induction items generalizing queue with
  | nil => simp [append]
  | cons item rest ih =>
    have := ih (queue.push item)
    simp only [append, List.foldl_cons] at this ⊢
    simp [this]

theorem toList_injective {q r : Queue α} (h : q.toList = r.toList) : q = r := by
  cases q; cases r
  simpa [toList] using h

end Queue

end SessionLayer
