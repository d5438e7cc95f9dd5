import Mathlib

/-!
# Circular storage

A storage of `size` cells is addressed by positions that never wrap: position `i` is the cell
`i % size`. Its contents are the cells of the `count` positions from `first` on.
-/

namespace Rs422Gateway.Ring

variable {α : Type*} {size : Nat} [NeZero size]

/-- The cell of a position. -/
def cell (storage : Vector α size) (i : Nat) : α := storage.get (Fin.ofNat size i)

/-- The cell of a position is written. -/
def store (storage : Vector α size) (i : Nat) (a : α) : Vector α size :=
  storage.set (i % size) a (Nat.mod_lt _ (Nat.pos_of_neZero size))

/-- The cells from a position on are written, one after another. -/
def storeAll (storage : Vector α size) (i : Nat) : List α → Vector α size
  | [] => storage
  | a :: rest => storeAll (store storage i a) (i + 1) rest

/-- The cells of the `count` positions from `first` on. -/
def contents (storage : Vector α size) (first : Nat) : Nat → List α
  | 0 => []
  | count + 1 => cell storage first :: contents storage (first + 1) count

@[simp] theorem contents_length (storage : Vector α size) (first count : Nat) :
    (contents storage first count).length = count := by
  induction count generalizing first with
  | zero => rfl
  | succ count ih => rw [contents, List.length_cons, ih]

theorem cell_congr (storage : Vector α size) {i j : Nat} (h : i % size = j % size) :
    cell storage i = cell storage j := by
  unfold cell
  congr 1
  exact Fin.ext h

theorem cell_store_self (storage : Vector α size) (i : Nat) (a : α) :
    cell (store storage i a) i = a := by
  have hlt : i % size < size := Nat.mod_lt _ (Nat.pos_of_neZero size)
  show (storage.set (i % size) a hlt)[i % size] = a
  rw [Vector.getElem_set_self]

theorem cell_store_ne (storage : Vector α size) {i j : Nat} (a : α) (h : i % size ≠ j % size) :
    cell (store storage i a) j = cell storage j := by
  have hi : i % size < size := Nat.mod_lt _ (Nat.pos_of_neZero size)
  have hj : j % size < size := Nat.mod_lt _ (Nat.pos_of_neZero size)
  show (storage.set (i % size) a hi)[j % size] = storage[j % size]
  rw [Vector.getElem_set_ne hi hj h]

omit [NeZero size] in
/-- Two positions less than a round apart have different cells. -/
theorem mod_ne_of_lt {i k : Nat} (hpos : 0 < k) (hlt : k < size) : (i + k) % size ≠ i % size := by
  intro heq
  have hdvd : size ∣ i + k - i := (Nat.modEq_iff_dvd' (Nat.le_add_right i k)).mp heq.symm
  rw [Nat.add_sub_cancel_left] at hdvd
  exact absurd (Nat.le_of_dvd hpos hdvd) (Nat.not_le_of_lt hlt)

/-- Positions may be reduced. -/
theorem contents_congr (storage : Vector α size) {i j : Nat} (h : i % size = j % size)
    (count : Nat) : contents storage i count = contents storage j count := by
  induction count generalizing i j with
  | zero => rfl
  | succ count ih =>
    have hnext : (i + 1) % size = (j + 1) % size := Nat.ModEq.add_right 1 h
    rw [contents, contents, cell_congr storage h, ih hnext]

/-- The write of the first free cell appends to the contents. -/
theorem contents_push (storage : Vector α size) (first : Nat) (a : α) {count : Nat}
    (h : count < size) :
    contents (store storage (first + count) a) first (count + 1) =
      contents storage first count ++ [a] := by
  induction count generalizing first with
  | zero =>
    have hcell := cell_store_self storage first a
    exact congrArg (fun b => [b]) hcell
  | succ count ih =>
    have hcell : (first + (count + 1)) % size ≠ first % size := mod_ne_of_lt (Nat.succ_pos _) h
    have hrest := ih (first + 1) (by omega)
    have hposition : first + 1 + count = first + (count + 1) := by omega
    rw [hposition] at hrest
    show cell (store storage (first + (count + 1)) a) first ::
        contents (store storage (first + (count + 1)) a) (first + 1) (count + 1) = _
    rw [cell_store_ne storage a hcell, hrest]
    rfl

/-- So does the write of several free cells. -/
theorem contents_storeAll (storage : Vector α size) (first : Nat) {count : Nat} (as : List α)
    (h : count + as.length ≤ size) :
    contents (storeAll storage (first + count) as) first (count + as.length) =
      contents storage first count ++ as := by
  induction as generalizing storage count with
  | nil => exact (List.append_nil _).symm
  | cons a rest ih =>
    rw [List.length_cons] at h
    have hfits : count + 1 + rest.length ≤ size := by omega
    have hrest := ih (store storage (first + count) a) hfits
    have hcount : count + (rest.length + 1) = count + 1 + rest.length := by omega
    rw [List.length_cons, hcount, storeAll, Nat.add_assoc, hrest, contents_push _ _ _ (by omega),
      List.append_assoc]
    rfl

theorem contents_add (storage : Vector α size) (first m n : Nat) :
    contents storage first (m + n) =
      contents storage first m ++ contents storage (first + m) n := by
  induction m generalizing first with
  | zero =>
    rw [Nat.zero_add]
    rfl
  | succ m ih =>
    have hposition : first + 1 + m = first + (m + 1) := by omega
    rw [Nat.succ_add, contents, ih (first + 1), hposition, contents]
    rfl

/-- What is written somewhere behind the contents leaves them alone. -/
theorem contents_storeAll_before (storage : Vector α size) (first : Nat) {count gap : Nat}
    (as : List α) (h : count + gap + as.length ≤ size) :
    contents (storeAll storage (first + (count + gap)) as) first count =
      contents storage first count := by
  have hstored := contents_storeAll storage first as h
  rw [contents_add, contents_add, contents_add storage, List.append_assoc, List.append_assoc]
    at hstored
  exact (List.append_inj hstored (by rw [contents_length, contents_length])).1

theorem storeAll_congr (storage : Vector α size) {i j : Nat} (h : i % size = j % size)
    (as : List α) : storeAll storage i as = storeAll storage j as := by
  induction as generalizing storage i j with
  | nil => rfl
  | cons a rest ih =>
    have hnext : (i + 1) % size = (j + 1) % size := Nat.ModEq.add_right 1 h
    have hstore : store storage i a = store storage j a := by
      unfold store
      congr 1
    rw [storeAll, storeAll, hstore, ih _ hnext]

end Rs422Gateway.Ring
