import Mathlib.Data.List.Basic

/-!
# Rust runtime pieces the model is written in

Fixed-size byte arrays `[u8; n]`, the three ways a call of the modelled code can end (a value,
an `Err`, a panic), and the random source `R: CryptoRng + RngCore` it draws from.

A call that reads or advances a state (an RNG, the requests sent to the backend) is an
`EStateM` computation: the state it leaves behind is kept when it fails, so that a theorem can
say which requests a failed call had already sent.
-/

namespace IronOxide

/-! ## 1. Fixed-size byte arrays -/

/-- A Rust byte array `[u8; n]`: a byte list whose length the type fixes. -/
structure ByteArr (n : Nat) where
  toList : List UInt8
  length_eq : toList.length = n
deriving DecidableEq, Repr

namespace ByteArr

@[ext] theorem ext {a b : ByteArr n} (h : a.toList = b.toList) : a = b := by
  cases a; cases b; cases h; rfl

/-- `dst.copy_from_slice(src)` into a fresh `[0u8; n]`: the array holding `src`, or a panic
(`none`) when the slice does not have length `n`. -/
def copyFromSlice (src : List UInt8) : Option (ByteArr n) :=
  if h : src.length = n then some ⟨src, h⟩ else none

/-- `[0u8; n]`. -/
def zero (n : Nat) : ByteArr n := ⟨List.replicate n 0, List.length_replicate n 0⟩

theorem copyFromSlice_of_length {src : List UInt8} (h : src.length = n) :
    copyFromSlice src = some ⟨src, h⟩ := dif_pos h

theorem copyFromSlice_eq_none {src : List UInt8} (h : src.length ≠ n) :
    (copyFromSlice src : Option (ByteArr n)) = none := dif_neg h

@[simp] theorem copyFromSlice_toList (a : ByteArr n) : copyFromSlice a.toList = some a :=
  copyFromSlice_of_length a.length_eq

end ByteArr

/-! ## 2. How a call ends -/

/-- How a call of the modelled code ends when it returns no value: an `Err` of its error type,
or a panic. -/
inductive Fault (ε : Type) where
  | err (e : ε)
  | panic
deriving DecidableEq, Repr

/-- The error conversion `?` applies through a `From` impl; a panic stays a panic. -/
def Fault.map (f : ε → ε') : Fault ε → Fault ε'
  | .err e => .err (f e)
  | .panic => .panic

@[simp] theorem Fault.map_err (f : ε → ε') (e : ε) : (Fault.err e).map f = .err (f e) := rfl
@[simp] theorem Fault.map_panic (f : ε → ε') : (Fault.panic : Fault ε).map f = .panic := rfl

/-- A call of the modelled code over a state `σ`, returning `Result<α, ε>` or panicking. -/
abbrev RustM (σ ε α : Type) := EStateM (Fault ε) σ α

namespace RustM

variable {σ τ ε ε' α β : Type}

/-- A pure call that returns `Result<α, ε>`. -/
def ofExcept (x : Except ε α) : RustM σ ε α := fun s =>
  match x with
  | .ok a => .ok a s
  | .error e => .error (.err e) s

/-- A pure call that returns `Result<α, ε>` or panics. -/
def ofFallible (x : Except (Fault ε) α) : RustM σ ε α := fun s =>
  match x with
  | .ok a => .ok a s
  | .error f => .error f s

/-- A value the code has unless a runtime check fails and it panics (`none`). -/
def orPanic (x : Option α) : RustM σ ε α := fun s =>
  match x with
  | some a => .ok a s
  | none => .error .panic s

/-- `?` on a call whose error converts into the caller's error type through `From`. -/
def mapErr (f : ε → ε') (x : RustM σ ε α) : RustM σ ε' α := fun s =>
  match x s with
  | .ok a s' => .ok a s'
  | .error e s' => .error (e.map f) s'

/-- Run a call on the part `τ` of a larger state that it owns. -/
def focus (get : σ → τ) (set : σ → τ → σ) (x : RustM τ ε α) : RustM σ ε α := fun s =>
  match x (get s) with
  | .ok a t => .ok a (set s t)
  | .error e t => .error e (set s t)

/-- A call that draws from a random state and cannot fail. -/
def draw (f : σ → α × σ) : RustM σ ε α := fun s => .ok (f s).1 (f s).2

/-- A call that draws from a random state and returns `Result<α, ε>`. -/
def drawExcept (f : σ → Except ε α × σ) : RustM σ ε α := fun s =>
  match (f s).1 with
  | .ok a => .ok a (f s).2
  | .error e => .error (.err e) (f s).2

@[simp] theorem pure_apply (a : α) (s : σ) : (pure a : RustM σ ε α) s = .ok a s := rfl

@[simp] theorem throw_apply (f : Fault ε) (s : σ) :
    (throw f : RustM σ ε α) s = .error f s := rfl

theorem bind_apply_ok {x : RustM σ ε α} {s s' : σ} {a : α} (h : x s = .ok a s')
    (f : α → RustM σ ε β) : (x >>= f) s = f a s' := by
  show EStateM.bind x f s = _
  simp only [EStateM.bind, h]

theorem bind_apply_error {x : RustM σ ε α} {s s' : σ} {e : Fault ε} (h : x s = .error e s')
    (f : α → RustM σ ε β) : (x >>= f) s = .error e s' := by
  show EStateM.bind x f s = _
  simp only [EStateM.bind, h]

@[simp] theorem ofExcept_ok (a : α) (s : σ) : (ofExcept (.ok a) : RustM σ ε α) s = .ok a s := rfl

@[simp] theorem ofExcept_error (e : ε) (s : σ) :
    (ofExcept (.error e) : RustM σ ε α) s = .error (.err e) s := rfl

@[simp] theorem ofFallible_ok (a : α) (s : σ) :
    (ofFallible (.ok a) : RustM σ ε α) s = .ok a s := rfl

@[simp] theorem ofFallible_error (f : Fault ε) (s : σ) :
    (ofFallible (.error f) : RustM σ ε α) s = .error f s := rfl

@[simp] theorem orPanic_some (a : α) (s : σ) : (orPanic (some a) : RustM σ ε α) s = .ok a s := rfl

@[simp] theorem orPanic_none (s : σ) : (orPanic none : RustM σ ε α) s = .error .panic s := rfl

@[simp] theorem draw_apply (f : σ → α × σ) (s : σ) :
    (draw f : RustM σ ε α) s = .ok (f s).1 (f s).2 := rfl

theorem drawExcept_ok {f : σ → Except ε α × σ} {s s' : σ} {a : α} (h : f s = (.ok a, s')) :
    drawExcept f s = .ok a s' := by
  simp only [drawExcept, h]

theorem drawExcept_error {f : σ → Except ε α × σ} {s s' : σ} {e : ε} (h : f s = (.error e, s')) :
    drawExcept f s = .error (.err e) s' := by
  simp only [drawExcept, h]

theorem mapErr_apply_ok {f : ε → ε'} {x : RustM σ ε α} {s s' : σ} {a : α}
    (h : x s = .ok a s') : mapErr f x s = .ok a s' := by
  simp only [mapErr, h]

theorem mapErr_apply_error {f : ε → ε'} {x : RustM σ ε α} {s s' : σ} {e : Fault ε}
    (h : x s = .error e s') : mapErr f x s = .error (e.map f) s' := by
  simp only [mapErr, h]

/-- The state a call leaves, whether it returned or failed. -/
def stateAfter : EStateM.Result (Fault ε) σ α → σ
  | .ok _ s => s
  | .error _ s => s

@[simp] theorem stateAfter_ok (a : α) (s : σ) :
    stateAfter (.ok a s : EStateM.Result (Fault ε) σ α) = s := rfl

@[simp] theorem stateAfter_error (f : Fault ε) (s : σ) :
    stateAfter (.error f s : EStateM.Result (Fault ε) σ α) = s := rfl

@[simp] theorem stateAfter_ofExcept (x : Except ε α) (s : σ) : stateAfter (ofExcept x s) = s := by
  cases x <;> rfl

/-- A call that never panics, from any state. With one lemma per combinator below, a call is
shown panic-free by following its code. -/
def NoPanic (x : RustM σ ε α) : Prop := ∀ s s', x s ≠ .error .panic s'

theorem noPanic_pure (a : α) : (pure a : RustM σ ε α).NoPanic := fun _ _ => nofun

theorem noPanic_throw_err (e : ε) : (throw (.err e) : RustM σ ε α).NoPanic := fun _ _ => nofun

theorem noPanic_ofExcept (x : Except ε α) : (ofExcept x : RustM σ ε α).NoPanic := by
  intro s s'
  cases x <;> exact nofun

theorem noPanic_draw (f : σ → α × σ) : (draw f : RustM σ ε α).NoPanic := fun _ _ => nofun

theorem noPanic_drawExcept (f : σ → Except ε α × σ) : (drawExcept f : RustM σ ε α).NoPanic := by
  intro s s'
  unfold drawExcept
  split <;> exact nofun

/-- `ofFallible` panics only on the panic it is given. -/
theorem NoPanic.ofFallible {x : Except (Fault ε) α} (hx : x ≠ .error .panic) :
    (ofFallible x : RustM σ ε α).NoPanic := by
  intro s s'
  cases x with
  | ok a => exact nofun
  | error f => rintro ⟨⟩; exact hx rfl

theorem NoPanic.bind {x : RustM σ ε α} {f : α → RustM σ ε β} (hx : x.NoPanic)
    (hf : ∀ a, (f a).NoPanic) : (x >>= f).NoPanic := by
  intro s s'
  cases h : x s with
  | ok a t => rw [bind_apply_ok h]; exact hf a t s'
  | error e t => rw [bind_apply_error h]; rintro ⟨⟩; exact hx s s' h

theorem NoPanic.mapErr {x : RustM σ ε α} (hx : x.NoPanic) (f : ε → ε') :
    (mapErr f x).NoPanic := by
  intro s s'
  cases h : x s with
  | ok a t => rw [mapErr_apply_ok h]; exact nofun
  | error e t =>
    rw [mapErr_apply_error h]
    cases e with
    | err e => exact nofun
    | panic => exact absurd h (hx s t)

theorem NoPanic.focus {get : σ → τ} {set : σ → τ → σ} {x : RustM τ ε α} (hx : x.NoPanic) :
    (focus get set x).NoPanic := by
  intro s s'
  cases h : x (get s) with
  | ok a t => simp only [RustM.focus, h]; exact nofun
  | error e t => simp only [RustM.focus, h]; rintro ⟨⟩; exact hx _ _ h

end RustM

/-! ## 3. Random sources -/

/-- A random source `R: CryptoRng + RngCore` as a state machine: `fillBytes n s` is what
`rng.fill_bytes(&mut [0u8; n])` writes into the buffer, and the state after the draw. -/
structure Rng (σ : Type) where
  fillBytes : (n : Nat) → σ → ByteArr n × σ

/-- A source that draws zeros and keeps no state. -/
def Rng.zeros : Rng Unit where
  fillBytes n _ := (.zero n, ())

/-- `rng.fill_bytes(&mut buf)` for an `n`-byte buffer. -/
def Rng.fill (rng : Rng σ) (n : Nat) : RustM σ ε (ByteArr n) := fun s =>
  .ok (rng.fillBytes n s).1 (rng.fillBytes n s).2

@[simp] theorem Rng.fill_apply (rng : Rng σ) (n : Nat) (s : σ) :
    (rng.fill n : RustM σ ε (ByteArr n)) s = .ok (rng.fillBytes n s).1 (rng.fillBytes n s).2 :=
  rfl

end IronOxide
