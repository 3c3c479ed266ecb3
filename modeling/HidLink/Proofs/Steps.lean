/-
Memory, one access at a time.

What an operation returns does not tell how it came by it.  Here a computation is a sequence
of accesses to memory, and there are two ways for one of them to fail: there is nothing at
that position of the data a caller has handed over, or an array of fixed size ends before it.
Both are faults, and a fault ends the sequence.  The positions of the data that were asked
for are kept, and so is what was written on the diagnostic stream.

Accesses to arrays that stay inside are not kept, so they are no different from a value that
is there already, and a loop over them comes to the value of its last step.  What such a loop
makes of an array is said once, as `overwrite`: a stretch of new bytes with everything around
it unchanged.
-/
import HidLink.Refusal

namespace HidLink

/-- An access to memory where there is none. -/
inductive Fault where
  /-- There is no data at all. -/
  | noData (index : Nat)
  /-- The data ends before this position. -/
  | behindData (index : Nat)
  /-- An array of this size ends before this position. -/
  | behindArray (size index : Nat)
  deriving DecidableEq, Repr

/-- Accesses to memory one after another, and what they come to. -/
structure Steps (α : Type) where
  /-- The positions of the data that were asked for, in this order. -/
  reads : List Nat
  /-- What was written on the diagnostic stream. -/
  said : List Item
  result : Except Fault α

namespace Steps

variable {α β : Type}

def bind (s : Steps α) (next : α → Steps β) : Steps β :=
  match s.result with
  | .error fault => ⟨s.reads, s.said, .error fault⟩
  | .ok x => ⟨s.reads ++ (next x).reads, s.said ++ (next x).said, (next x).result⟩

instance : Monad Steps where
  pure x := ⟨[], [], .ok x⟩
  bind := Steps.bind

theorem bind_ok (reads : List Nat) (said : List Item) (x : α) (next : α → Steps β) :
    (⟨reads, said, .ok x⟩ : Steps α) >>= next =
      ⟨reads ++ (next x).reads, said ++ (next x).said, (next x).result⟩ := rfl

theorem bind_error (reads : List Nat) (said : List Item) (fault : Fault) (next : α → Steps β) :
    (⟨reads, said, .error fault⟩ : Steps α) >>= next = ⟨reads, said, .error fault⟩ := rfl

instance : LawfulMonad Steps := LawfulMonad.mk' Steps
  (by
    intro α s
    obtain ⟨reads, said, fault | x⟩ := s
    · rfl
    · show (⟨reads ++ [], said ++ [], .ok x⟩ : Steps α) = _
      rw [List.append_nil, List.append_nil])
  (by
    intro α β x next
    rfl)
  (by
    intro α β γ s next last
    obtain ⟨reads, said, fault | x⟩ := s
    · rfl
    · rw [bind_ok, bind_ok]
      obtain ⟨reads', said', fault | y⟩ := next x
      · rw [bind_error, bind_error]
      · rw [bind_ok, bind_ok, List.append_assoc, List.append_assoc])

theorem map_ok (f : α → β) (reads : List Nat) (said : List Item) (x : α) :
    f <$> (⟨reads, said, .ok x⟩ : Steps α) = ⟨reads, said, .ok (f x)⟩ := by
  rw [map_eq_pure_bind, bind_ok]
  show (⟨reads ++ [], said ++ [], .ok (f x)⟩ : Steps β) = _
  rw [List.append_nil, List.append_nil]

/-! ### Being refused

A refusal is not a fault: the sequence has come to its end, and the end is that the operation
was refused.  So it is a result like any other, and going on has to look at it.
-/

variable {reads : List Nat} {said : List Item}

/-- The operation ends here, and the refusal is written on the diagnostic stream. -/
def refuse (refusal : Refusal) : Steps (Outcome α) :=
  ⟨[], refusal.diagnostic, .ok (.refuse refusal)⟩

/-- Goes on with what an operation came to, unless it was refused. -/
def unlessRefused (s : Steps (Outcome α)) (next : α → Steps β) : Steps (Outcome β) :=
  s >>= fun outcome =>
    match outcome with
    | .error failure => pure (.error failure)
    | .ok x => .ok <$> next x

theorem unlessRefused_of_ok {x : α} {next : α → Steps β} {y : β} (h : next x = pure y) :
    (⟨reads, said, .ok (.ok x)⟩ : Steps (Outcome α)).unlessRefused next =
      ⟨reads, said, .ok (.ok y)⟩ := by
  rw [unlessRefused, bind_ok]
  simp only [h, map_pure]
  show (⟨reads ++ [], said ++ [], .ok (.ok y)⟩ : Steps (Outcome β)) = _
  rw [List.append_nil, List.append_nil]

theorem unlessRefused_of_refuse (refusal : Refusal) (next : α → Steps β) :
    (⟨reads, said, .ok (.refuse refusal)⟩ : Steps (Outcome α)).unlessRefused next =
      ⟨reads, said, .ok (.refuse refusal)⟩ := by
  show (⟨reads ++ [], said ++ [], .ok (.refuse refusal)⟩ : Steps (Outcome β)) = _
  rw [List.append_nil, List.append_nil]

/-! ### Arrays of fixed size -/

variable {n : Nat}

def get (a : Vector UInt8 n) (i : Nat) : Steps UInt8 :=
  if h : i < n then pure a[i] else ⟨[], [], .error (.behindArray n i)⟩

def set (a : Vector UInt8 n) (i : Nat) (x : UInt8) : Steps (Vector UInt8 n) :=
  if h : i < n then pure (a.set i x) else ⟨[], [], .error (.behindArray n i)⟩

/-- Copies `count` bytes in order from their source into an array, from position `start` on. -/
def copy (source : Nat → Steps UInt8) (a : Vector UInt8 n) (start : Nat) :
    (count : Nat) → Steps (Vector UInt8 n)
  | 0 => pure a
  | count + 1 => do
      let a ← copy source a start count
      let x ← source count
      set a (start + count) x

/-- The `width` bytes of an array from position `start` on, copied into an array of their own. -/
def slice (a : Vector UInt8 n) (start width : Nat) : Steps (Vector UInt8 width) :=
  copy (fun i => get a (start + i)) (Vector.replicate width 0) 0 width

/-- Copies the whole of an array into another one, from position `start` on. -/
def put {m : Nat} (b : Vector UInt8 m) (a : Vector UInt8 n) (start : Nat) :
    Steps (Vector UInt8 n) :=
  copy (get b) a start m

theorem get_of_lt (a : Vector UInt8 n) {i : Nat} (h : i < n) : get a i = pure a[i] := dif_pos h

theorem getD_toList (a : Vector UInt8 n) {i : Nat} (h : i < n) : a.toList.getD i 0 = a[i] := by
  rw [List.getD_eq_getElem?_getD, Vector.getElem?_toList, Vector.getElem?_eq_getElem h,
    Option.getD_some]

theorem set_of_lt (a : Vector UInt8 n) {i : Nat} (h : i < n) (x : UInt8) :
    set a i x = pure (a.set i x) := dif_pos h

/-! ### Copying -/

/-- The array with `count` bytes from position `start` on replaced by these. -/
def overwrite (a : Vector UInt8 n) (start : Nat) (byte : Nat → UInt8) (count : Nat) :
    Vector UInt8 n :=
  Vector.ofFn fun j =>
    if start ≤ j.val ∧ j.val < start + count then byte (j.val - start) else a.get j

theorem getElem_overwrite (a : Vector UInt8 n) (start : Nat) (byte : Nat → UInt8) (count : Nat)
    {j : Nat} (hj : j < n) :
    (overwrite a start byte count)[j] =
      if start ≤ j ∧ j < start + count then byte (j - start) else a[j] := by
  rw [overwrite, Vector.getElem_ofFn]
  rfl

theorem overwrite_zero (a : Vector UInt8 n) (start : Nat) (byte : Nat → UInt8) :
    overwrite a start byte 0 = a := by
  refine Vector.ext fun j hj => ?_
  rw [getElem_overwrite, if_neg (by omega)]

theorem set_overwrite (a : Vector UInt8 n) (start : Nat) (byte : Nat → UInt8) (count : Nat)
    (h : start + count < n) :
    (overwrite a start byte count).set (start + count) (byte count) =
      overwrite a start byte (count + 1) := by
  refine Vector.ext fun j hj => ?_
  rw [getElem_overwrite]
  -- The last place is written just now, all places before it were written earlier.
  by_cases hlast : start + count = j
  · subst hlast
    rw [Vector.getElem_set_self, if_pos (by omega), Nat.add_sub_cancel_left]
  · rw [Vector.getElem_set_ne _ _ hlast, getElem_overwrite]
    by_cases hbefore : start ≤ j ∧ j < start + count
    · rw [if_pos hbefore, if_pos (by omega)]
    · rw [if_neg hbefore, if_neg (by omega)]

/-- **Copying stays inside an array that is large enough, and asks only for what it copies.** -/
theorem copy_eq {source : Nat → Steps UInt8} {reads : Nat → List Nat} {byte : Nat → UInt8}
    (a : Vector UInt8 n) {start : Nat} :
    ∀ {count : Nat}, (∀ i < count, source i = ⟨reads i, [], .ok (byte i)⟩) → start + count ≤ n →
      copy source a start count =
        ⟨(List.range count).flatMap reads, [], .ok (overwrite a start byte count)⟩ := by
  intro count
  induction count with
  | zero =>
      intro _ _
      rw [overwrite_zero]
      rfl
  | succ count ih =>
      intro hsource hroom
      have hfront := ih (fun i hi => hsource i (by omega)) (by omega)
      rw [copy, hfront, hsource count (by omega), bind_ok, bind_ok, set_of_lt _ (by omega),
        set_overwrite _ _ _ _ (by omega), List.range_succ, List.flatMap_append]
      simp only [List.flatMap_singleton, List.append_nil, pure]

/-- Copying bytes that are there already asks for none of the data. -/
theorem copy_of_pure {source : Nat → Steps UInt8} {byte : Nat → UInt8} (a : Vector UInt8 n)
    {start count : Nat} (hsource : ∀ i < count, source i = pure (byte i))
    (hroom : start + count ≤ n) :
    copy source a start count = pure (overwrite a start byte count) := by
  have hnone : ((List.range count).flatMap fun _ => ([] : List Nat)) = [] :=
    List.flatMap_eq_nil_iff.2 fun _ _ => rfl
  have hsteps : ∀ i < count, source i = ⟨[], [], .ok (byte i)⟩ := hsource
  rw [copy_eq a hsteps hroom, hnone]
  rfl

theorem slice_eq (a : Vector UInt8 n) {start width : Nat} (h : start + width ≤ n) :
    slice a start width = pure (Vector.ofFn fun i => a[start + i.val]) := by
  have hsource : ∀ i < width, get a (start + i) = pure (a.toList.getD (start + i) 0) := by
    intro i hi
    rw [get_of_lt a (by omega), getD_toList a (by omega)]
  rw [slice, copy_of_pure _ hsource (by omega)]
  refine congrArg pure (Vector.ext fun i hi => ?_)
  rw [getElem_overwrite, if_pos (by omega), Vector.getElem_ofFn, Nat.sub_zero,
    getD_toList a (by omega)]

theorem put_eq {m : Nat} (b : Vector UInt8 m) (a : Vector UInt8 n) {start : Nat}
    (h : start + m ≤ n) : put b a start = pure (overwrite a start (b.toList.getD · 0) m) := by
  refine copy_of_pure a (fun i hi => ?_) h
  rw [get_of_lt b hi, getD_toList b hi]

/-- A copy asks its source only for what it copies. -/
theorem copy_congr {source other : Nat → Steps UInt8} (a : Vector UInt8 n) (start : Nat) :
    ∀ {count : Nat}, (∀ i < count, source i = other i) →
      copy source a start count = copy other a start count := by
  intro count
  induction count with
  | zero =>
      intro _
      rfl
  | succ count ih =>
      intro h
      rw [copy, copy, ih fun i hi => h i (by omega), h count (by omega)]

end Steps

end HidLink
