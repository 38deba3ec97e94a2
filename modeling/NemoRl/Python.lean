import Mathlib.Data.List.Infix
import Mathlib.Data.List.Nodup

/-!
# The Python built-ins of the training loop

`dpo.py` keeps its progress record, and the metrics a validation pass returns,
in Python dictionaries keyed by strings; it decides which keys are stale with
`str.startswith` and `str.endswith`; and it tests step counters with `%`, which
raises `ZeroDivisionError` on a zero divisor where Lean's `%` returns the
dividend. This module fixes the meaning of these built-ins once, so that the
modules modelling `dpo.py` and `penguin.py` read line by line against the source.

A `PyDict` keeps its entries in insertion order with pairwise distinct keys; the
invariant is a field, so no model ever builds a dictionary with a repeated key.
Assignment overwrites a present key in place and appends a new one, and `update`
assigns the entries of its argument in order. Everything later modules ask of a
dictionary goes through `PyDict.get?`: a key is present exactly when it reads
`some`, which is what `PyDict.mem_keys_iff` says.
-/

namespace NemoRl

/-- **A Python `dict` with string keys**: its entries in insertion order. -/
structure PyDict (α : Type) where
  /-- The `(key, value)` pairs, in insertion order. -/
  entries : List (String × α)
  /-- A key occurs once. -/
  nodup : (entries.map Prod.fst).Nodup

namespace PyDict

variable {α : Type}

/-- `{}`. -/
def empty : PyDict α := ⟨[], List.nodup_nil⟩

/-- `list(d)`: the keys, in insertion order. -/
def keys (d : PyDict α) : List String := d.entries.map Prod.fst

/-- `d.get(k)`: the value stored under `k`, if any. -/
def get? (d : PyDict α) (k : String) : Option α := d.entries.lookup k

/-- Overwriting the value of `k` leaves every key where it was. -/
theorem map_fst_overwrite (l : List (String × α)) (k : String) (v : α) :
    (l.map (fun e => if e.1 = k then (k, v) else e)).map Prod.fst = l.map Prod.fst := by
  induction l with
  | nil => rfl
  | cons e l ih => by_cases h : e.1 = k <;> simp [h, ih]

/-- `d[k] = v`: overwrites the value of a present key in place, appends a new
key at the end. -/
def set (d : PyDict α) (k : String) (v : α) : PyDict α :=
  if h : k ∈ d.keys then
    ⟨d.entries.map (fun e => if e.1 = k then (k, v) else e),
      (map_fst_overwrite d.entries k v).symm ▸ d.nodup⟩
  else
    ⟨d.entries ++ [(k, v)], by
      rw [List.map_append, List.nodup_append]
      exact ⟨d.nodup, List.nodup_singleton _, by simpa [keys] using h⟩⟩

/-- `d.update(e)`: `d[k] = v` for each entry `(k, v)` of `e`, in order. -/
def update (d e : PyDict α) : PyDict α :=
  e.entries.foldl (fun d kv => d.set kv.1 kv.2) d

/-- `for k in list(d): if not p(k): del d[k]`: the entries whose key passes `p`,
in their order. -/
def filter (d : PyDict α) (p : String → Bool) : PyDict α :=
  ⟨d.entries.filter (fun e => p e.1),
    d.nodup.sublist ((List.filter_sublist _).map Prod.fst)⟩

/-! ## Reading a dictionary through `get?` -/

@[simp] theorem get?_empty (k : String) : (empty : PyDict α).get? k = none := rfl

/-- `List.lookup` on a cons, as an `if`. -/
theorem lookup_cons_ite (a k : String) (b : α) (l : List (String × α)) :
    ((a, b) :: l).lookup k = if k = a then some b else l.lookup k := by
  by_cases h : k = a
  · subst h; simp
  · rw [List.lookup_cons, beq_false_of_ne h, if_neg h]

theorem lookup_eq_none_of_not_mem {l : List (String × α)} {k : String}
    (h : k ∉ l.map Prod.fst) : l.lookup k = none := by
  induction l with
  | nil => rfl
  | cons e l ih =>
    simp only [List.map_cons, List.mem_cons, not_or] at h
    rw [lookup_cons_ite, if_neg h.1, ih h.2]

theorem lookup_overwrite (l : List (String × α)) (k k' : String) (v : α) :
    (l.map (fun e => if e.1 = k then (k, v) else e)).lookup k' =
      if k' = k then (if k ∈ l.map Prod.fst then some v else none) else l.lookup k' := by
  induction l with
  | nil => by_cases h : k' = k <;> simp [h]
  | cons e l ih =>
    obtain ⟨a, b⟩ := e
    by_cases hk : k' = k
    · subst hk
      by_cases ha : k' = a
      · subst ha; simp
      · have hm : k' ∈ a :: l.map Prod.fst ↔ k' ∈ l.map Prod.fst := by simp [ha]
        simp only [List.map_cons, if_neg (Ne.symm ha), lookup_cons_ite, if_neg ha, ih,
          if_pos rfl, if_congr hm rfl rfl]
    · by_cases ha : a = k <;> simp [lookup_cons_ite, ha, hk, ih]

/-- **Assignment, read back**: the assigned key reads the new value, every other
key what it read before. -/
@[simp] theorem get?_set (d : PyDict α) (k k' : String) (v : α) :
    (d.set k v).get? k' = if k' = k then some v else d.get? k' := by
  unfold set get?
  split
  · next h => rw [lookup_overwrite]; simp_all [keys]
  · next h =>
    rw [List.lookup_append, lookup_cons_ite]
    by_cases hk : k' = k
    · subst hk
      simp [lookup_eq_none_of_not_mem h]
    · cases d.entries.lookup k' <;> simp [hk]

/-- Assigning a present key leaves the keys where they were. -/
theorem keys_set_of_mem {d : PyDict α} {k : String} (h : k ∈ d.keys) (v : α) :
    (d.set k v).keys = d.keys := by
  unfold set
  rw [dif_pos h]
  exact map_fst_overwrite d.entries k v

/-- Assigning the entries of a list with distinct keys, read back. -/
theorem get?_foldl_set (l : List (String × α)) (hl : (l.map Prod.fst).Nodup)
    (d : PyDict α) (k : String) :
    (l.foldl (fun d kv => d.set kv.1 kv.2) d).get? k = (l.lookup k).or (d.get? k) := by
  induction l generalizing d with
  | nil => rfl
  | cons kv l ih =>
    obtain ⟨a, b⟩ := kv
    simp only [List.map_cons, List.nodup_cons] at hl
    rw [List.foldl_cons, ih hl.2, lookup_cons_ite, get?_set]
    by_cases hk : k = a
    · subst hk
      simp [lookup_eq_none_of_not_mem hl.1]
    · simp [hk]

/-- **Update, read back**: a key reads its value in `e` when `e` has it, and its
value in `d` otherwise. -/
@[simp] theorem get?_update (d e : PyDict α) (k : String) :
    (d.update e).get? k = (e.get? k).or (d.get? k) :=
  get?_foldl_set e.entries e.nodup d k

/-- **Filter, read back**: a key that passes reads what it read, one that does
not is gone. -/
@[simp] theorem get?_filter (d : PyDict α) (p : String → Bool) (k : String) :
    (d.filter p).get? k = if p k then d.get? k else none := by
  simp only [filter, get?]
  induction d.entries with
  | nil => simp
  | cons e l ih =>
    obtain ⟨a, b⟩ := e
    by_cases hk : k = a
    · subst hk; cases hp : p k <;> simp [List.filter_cons, hp, ih, lookup_cons_ite]
    · cases hp : p a <;> simp [List.filter_cons, hp, ih, lookup_cons_ite, hk]

/-- A key is listed exactly when it reads a value. -/
theorem mem_keys_iff (d : PyDict α) (k : String) : k ∈ d.keys ↔ (d.get? k).isSome := by
  simp only [keys, get?]
  induction d.entries with
  | nil => simp
  | cons e l ih =>
    obtain ⟨a, b⟩ := e
    by_cases hk : k = a <;> simp [lookup_cons_ite, hk, ih]

/-- A key that reads a value is stored with it. -/
theorem mem_entries_of_get? {d : PyDict α} {k : String} {v : α}
    (h : d.get? k = some v) : (k, v) ∈ d.entries := by
  simp only [get?] at h
  revert h
  induction d.entries with
  | nil => intro h; cases h
  | cons e l ih =>
    intro h
    obtain ⟨a, b⟩ := e
    rw [lookup_cons_ite] at h
    by_cases hk : k = a
    · rw [if_pos hk] at h; cases h; subst hk; exact List.mem_cons_self _ _
    · rw [if_neg hk] at h; exact List.mem_cons_of_mem _ (ih h)

/-- Two dictionaries with the same entries are the same dictionary. -/
theorem entries_injective : Function.Injective (@entries α) := by
  rintro ⟨_, _⟩ ⟨_, _⟩ rfl
  rfl

end PyDict

/-! ## Strings -/

/-- `s.startswith(p)`. -/
def startswith (s p : String) : Bool := p.data.isPrefixOf s.data

/-- `s.endswith(p)`. -/
def endswith (s p : String) : Bool := p.data.isSuffixOf s.data

/-- `p in s`, on strings: `p` occurs in `s`. -/
def pyIn (p s : String) : Bool := decide (p.data <:+: s.data)

theorem endswith_iff (s p : String) : endswith s p = true ↔ p.data <:+ s.data :=
  List.isSuffixOf_iff_suffix

theorem startswith_iff (s p : String) : startswith s p = true ↔ p.data <+: s.data :=
  List.isPrefixOf_iff_prefix

/-- **Two suffixes of one string are suffixes of each other**: so a key that ends
in one metric name ends in another only when one name ends the other. -/
theorem endswith_of_endswith {s p q : String} (hp : endswith s p = true)
    (hq : endswith s q = true) : endswith p q = true ∨ endswith q p = true := by
  simp only [endswith_iff] at *
  exact List.suffix_or_suffix_of_suffix hq hp

/-! ## Exceptions

A raised exception is `Except.error` with the text Python prints for it. -/

@[simp] theorem ok_bind {ε α β : Type} (a : α) (f : α → Except ε β) :
    (Except.ok a >>= f) = f a := rfl

@[simp] theorem error_bind {ε α β : Type} (e : ε) (f : α → Except ε β) :
    (Except.error e >>= f) = Except.error e := rfl

@[simp] theorem throw_eq_error {ε α : Type} (e : ε) : (throw e : Except ε α) = .error e := rfl

@[simp] theorem pure_eq_ok {ε α : Type} (a : α) : (pure a : Except ε α) = .ok a := rfl

/-- A bind returns exactly when both of its parts do. -/
theorem bind_eq_ok {ε α β : Type} {x : Except ε α} {f : α → Except ε β} {b : β} :
    (x >>= f) = .ok b ↔ ∃ a, x = .ok a ∧ f a = .ok b := by
  cases x <;> simp

/-- A bind raises exactly when its first part does, or its second part on what
the first returned. -/
theorem bind_eq_error {ε α β : Type} {x : Except ε α} {f : α → Except ε β} {e : ε} :
    (x >>= f) = .error e ↔ x = .error e ∨ ∃ a, x = .ok a ∧ f a = .error e := by
  cases x <;> simp

/-- The message of the `KeyError` a missing dictionary key raises. -/
def keyError (key : String) : String := "KeyError: \x27" ++ key ++ "\x27"

/-- `assert cond, message`. -/
def pyAssert (cond : Bool) (message : String) : Except String Unit :=
  if cond then .ok () else .error ("AssertionError: " ++ message)

@[simp] theorem pyAssert_eq_ok {cond : Bool} {message : String} {u : Unit} :
    pyAssert cond message = .ok u ↔ cond = true := by
  cases cond <;> simp [pyAssert]

@[simp] theorem pyAssert_eq_error {cond : Bool} {message e : String} :
    pyAssert cond message = .error e ↔ cond = false ∧ e = "AssertionError: " ++ message := by
  cases cond <;> simp [pyAssert, eq_comm]

/-- `d[key]`: raises `KeyError` on a missing key. -/
def PyDict.getItem {α : Type} (d : PyDict α) (key : String) : Except String α :=
  match d.get? key with
  | some v => .ok v
  | none => .error (keyError key)

@[simp] theorem PyDict.getItem_eq_ok {α : Type} {d : PyDict α} {key : String} {v : α} :
    d.getItem key = .ok v ↔ d.get? key = some v := by
  unfold PyDict.getItem
  split <;> simp_all

@[simp] theorem PyDict.getItem_eq_error {α : Type} {d : PyDict α} {key e : String} :
    d.getItem key = .error e ↔ d.get? key = none ∧ e = keyError key := by
  unfold PyDict.getItem
  cases d.get? key <;> simp [eq_comm]

/-- The message of the `IndexError` of an index past either end of a list. -/
def listIndexOutOfRange : String := "IndexError: list index out of range"

/-- `l[-1]`: raises `IndexError` on an empty list. -/
def pyLast {α : Type} (l : List α) : Except String α :=
  match l.getLast? with
  | some a => .ok a
  | none => .error listIndexOutOfRange

@[simp] theorem pyLast_eq_ok {α : Type} {l : List α} {a : α} :
    pyLast l = .ok a ↔ ∃ ys, l = ys ++ [a] := by
  rw [← List.getLast?_eq_some_iff]
  unfold pyLast
  split <;> simp_all

@[simp] theorem pyLast_eq_error {α : Type} {l : List α} {e : String} :
    pyLast l = .error e ↔ l = [] ∧ e = listIndexOutOfRange := by
  rw [← List.getLast?_eq_none_iff]
  unfold pyLast
  cases l.getLast? <;> simp [eq_comm]

/-- The message of Python's integer `%` by zero. -/
def integerModuloByZero : String := "ZeroDivisionError: integer modulo by zero"

/-- `a % b` on Python integers: raises on a zero divisor. -/
def pyMod (a b : Nat) : Except String Nat :=
  if b = 0 then .error integerModuloByZero else .ok (a % b)

@[simp] theorem pyMod_of_pos {a b : Nat} (hb : 0 < b) : pyMod a b = .ok (a % b) := by
  simp [pyMod, Nat.pos_iff_ne_zero.1 hb]

/-! ## `repr`

Assertion messages print the dictionaries and lists they are about, through
`repr`. -/

/-- The two lowercase hexadecimal digits of a code below `256`. -/
def hexByte (n : Nat) : String := String.mk [Nat.digitChar (n / 16), Nat.digitChar (n % 16)]

/-- **A character inside the `repr` of a `str`** enclosed in `quote`: the quote
and the backslash behind a backslash, tab, newline and carriage return as
escapes, and the other ASCII control characters as `\xhh`. -/
def reprChar (quote c : Char) : String :=
  if c = quote ∨ c = '\\' then String.mk ['\\', c]
  else if c = '\t' then "\\t"
  else if c = '\n' then "\\n"
  else if c = '\r' then "\\r"
  else if c.toNat < 32 ∨ c.toNat = 127 then "\\x" ++ hexByte c.toNat
  else c.toString

/-- **`repr` of a `str`**: between single quotes, or between double quotes when
the text holds a single quote and no double quote. Python also escapes the
characters beyond ASCII that it cannot print, which this model keeps as they are. -/
def strRepr (s : String) : String :=
  let quote :=
    if s.data.contains (Char.ofNat 39) && !s.data.contains (Char.ofNat 34) then Char.ofNat 34
    else Char.ofNat 39
  quote.toString ++ String.join (s.data.map (reprChar quote)) ++ quote.toString

/-- `repr` of a `dict` of strings. -/
def PyDict.repr (d : PyDict String) : String :=
  "\x7b" ++ ", ".intercalate (d.entries.map fun e => strRepr e.1 ++ ": " ++ strRepr e.2) ++ "\x7d"

/-- `repr` of a `list` of such dictionaries. -/
def listRepr (l : List (PyDict String)) : String :=
  "[" ++ ", ".intercalate (l.map PyDict.repr) ++ "]"

end NemoRl
