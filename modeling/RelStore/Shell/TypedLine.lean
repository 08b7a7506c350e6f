import RelStore.Text.Grapheme

/-!
Lines as they are typed. A backspace in a line takes back the cluster before it, and is lost if
there is none. The size of a cluster in UTF-8 is kept in one byte, so of a cluster of 256 bytes or
more only the remainder is taken back; a line in which that would cut a character apart cannot be
read.
-/

namespace RelStore
set_option autoImplicit false

open Text

/-- The part of a line that has been typed. -/
structure TypedLine where
  /-- What is left of it, reversed. -/
  text : List Char
  sizes : List Nat

namespace TypedLine

def backspace : Char := '\x08'

def byteLength (text : List Char) : Nat :=
  (String.ofList text).utf8ByteSize

/-- A reversed text without its last `n` bytes, unless they begin inside a character. -/
def takeBack? : Nat → List Char → Option (List Char)
  | 0, text => some text
  | _ + 1, [] => none
  | n + 1, c :: text => if c.utf8Size ≤ n + 1 then takeBack? (n + 1 - c.utf8Size) text else none

def type? (l : TypedLine) (cluster : List Char) : Option TypedLine :=
  if cluster = [backspace] then
    match l.sizes with
    | [] => some l
    | size :: sizes => (takeBack? size l.text).map (⟨·, sizes⟩)
  else some ⟨cluster.reverse ++ l.text, byteLength cluster % 256 :: l.sizes⟩

def read? (line : String) : Option String :=
  ((clusters line.toList).foldlM type? ⟨[], []⟩).map fun l => String.ofList l.text.reverse

def readAll : List String → List String × Bool
  | [] => ([], false)
  | line :: rest =>
    match read? line with
    | none => ([], true)
    | some text => (text :: (readAll rest).1, (readAll rest).2)

theorem text_foldlM_type? {clusters : List (List Char)} (h : [backspace] ∉ clusters)
    (l : TypedLine) :
    (clusters.foldlM type? l).map (·.text.reverse) =
      some (l.text.reverse ++ clusters.flatten) := by
  induction clusters generalizing l with
  | nil => simp
  | cons cluster rest ih =>
    simp only [List.mem_cons, not_or] at h
    rw [List.foldlM_cons, type?, if_neg (Ne.symm h.1)]
    simp [ih h.2]

theorem read?_of_not_mem {line : String} (h : backspace ∉ line.toList) : read? line = some line := by
  have hc : [backspace] ∉ clusters line.toList := fun hm => h (by
    rw [← flatten_clusters line.toList]
    exact List.mem_flatten.mpr ⟨_, hm, List.mem_singleton_self _⟩)
  have := congrArg (Option.map String.ofList) (text_foldlM_type? hc ⟨[], []⟩)
  simpa [read?, flatten_clusters, Function.comp_def] using this

end TypedLine
end RelStore
