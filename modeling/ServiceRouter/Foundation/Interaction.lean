import Mathlib.Data.List.Basic

/-!
# Interactive programs and their interleavings

A program asks its environment questions one at a time and continues with the
replies; it may also abort.  The log of a run is the list of its exchanges.
Several programs that share one environment run interleaved: a schedule is a
list of exchanges tagged with the program that made them, and it interleaves
the programs when every program's own exchanges are a run of that program.
-/

namespace ServiceRouter.Foundation

/-- The questions programs may ask and the type of each reply. -/
structure Interface where
  Op : Type
  Reply : Op → Type

structure Exchange (I : Interface) where
  op : I.Op
  reply : I.Reply op

inductive Program (I : Interface) (α : Type) where
  | done (result : α)
  | abort (message : String)
  | call (op : I.Op) (next : I.Reply op → Program I α)

namespace Program

variable {I : Interface} {α β : Type}

def bind : Program I α → (α → Program I β) → Program I β
  | .done a, f => f a
  | .abort message, _ => .abort message
  | .call op next, f => .call op fun reply => (next reply).bind f

instance : Monad (Program I) where
  pure := .done
  bind := .bind

def ask (op : I.Op) : Program I (I.Reply op) := .call op .done

@[simp] theorem pure_eq (a : α) : (pure a : Program I α) = .done a := rfl

@[simp] theorem bind_eq (p : Program I α) (f : α → Program I β) :
    p >>= f = p.bind f := rfl

@[simp] theorem done_bind (a : α) (f : α → Program I β) :
    (Program.done a : Program I α).bind f = f a := rfl

@[simp] theorem abort_bind (message : String) (f : α → Program I β) :
    (Program.abort message : Program I α).bind f = .abort message := rfl

theorem bind_assoc {γ : Type} (p : Program I α) (f : α → Program I β)
    (g : β → Program I γ) :
    (p.bind f).bind g = p.bind fun a => (f a).bind g := by
  induction p with
  | done a => rfl
  | abort message => rfl
  | call op next ih => exact congrArg (call op) (funext ih)

/-! ## Runs -/

/-- `Runs p log q`: with the exchanges of `log`, `p` has become `q`. -/
inductive Runs : Program I α → List (Exchange I) → Program I α → Prop
  | refl (p : Program I α) : Runs p [] p
  | step {op : I.Op} {next : I.Reply op → Program I α} (reply : I.Reply op)
      {log : List (Exchange I)} {q : Program I α} (h : Runs (next reply) log q) :
      Runs (.call op next) (⟨op, reply⟩ :: log) q

def Returns (p : Program I α) (log : List (Exchange I)) (a : α) : Prop :=
  Runs p log (.done a)

@[simp] theorem returns_done {a b : α} {log : List (Exchange I)} :
    (Program.done a : Program I α).Returns log b ↔ log = [] ∧ a = b := by
  constructor
  · intro h
    cases h
    exact ⟨rfl, rfl⟩
  · rintro ⟨rfl, rfl⟩
    exact .refl _

@[simp] theorem not_returns_abort {message : String} {b : α}
    {log : List (Exchange I)} :
    ¬ (Program.abort message : Program I α).Returns log b := by
  intro h
  cases h

theorem returns_call {op : I.Op} {next : I.Reply op → Program I α}
    {log : List (Exchange I)} {a : α} :
    (Program.call op next).Returns log a ↔
      ∃ reply rest, log = ⟨op, reply⟩ :: rest ∧ (next reply).Returns rest a := by
  constructor
  · intro h
    cases h with
    | step reply h => exact ⟨reply, _, rfl, h⟩
  · rintro ⟨reply, rest, rfl, h⟩
    exact .step reply h

theorem returns_bind {p : Program I α} {f : α → Program I β}
    {log : List (Exchange I)} {b : β} :
    (p.bind f).Returns log b ↔
      ∃ first a rest, log = first ++ rest ∧ p.Returns first a ∧
        (f a).Returns rest b := by
  induction p generalizing log with
  | done a =>
      constructor
      · intro h
        exact ⟨[], a, log, rfl, .refl _, h⟩
      · rintro ⟨first, a', rest, rfl, hfirst, hrest⟩
        obtain ⟨rfl, rfl⟩ := returns_done.mp hfirst
        exact hrest
  | abort message => simp
  | call op next ih =>
      simp only [bind, returns_call]
      constructor
      · rintro ⟨reply, rest, rfl, h⟩
        obtain ⟨first, a, tail, rfl, hfirst, htail⟩ := (ih reply).mp h
        exact ⟨⟨op, reply⟩ :: first, a, tail, rfl,
          ⟨reply, first, rfl, hfirst⟩, htail⟩
      · rintro ⟨first, a, rest, rfl, ⟨reply, tail, rfl, hfirst⟩, hrest⟩
        exact ⟨reply, tail ++ rest, rfl,
          (ih reply).mpr ⟨tail, a, rest, rfl, hfirst, hrest⟩⟩

/-- A run of a sequence is still in the first part or has passed it. -/
theorem Runs.of_bind {p : Program I α} {f : α → Program I β}
    {log : List (Exchange I)} {q : Program I β} (h : (p.bind f).Runs log q) :
    (∃ r, p.Runs log r) ∨
      ∃ first a rest, log = first ++ rest ∧ p.Returns first a ∧
        (f a).Runs rest q := by
  induction p generalizing log with
  | done a => exact .inr ⟨[], a, log, rfl, .refl _, h⟩
  | abort message =>
      cases h
      exact .inl ⟨_, .refl _⟩
  | call op next ih =>
      cases h with
      | refl => exact .inl ⟨_, .refl _⟩
      | step reply hnext =>
          rcases ih reply hnext with
            ⟨r, hr⟩ | ⟨first, a, rest, rfl, hfirst, hrest⟩
          · exact .inl ⟨r, .step reply hr⟩
          · exact .inr
              ⟨⟨op, reply⟩ :: first, a, rest, rfl, .step reply hfirst, hrest⟩

/-! ## Which questions are asked -/

/-- Every question the program can come to ask satisfies `allowed`. -/
def OnlyAsks (allowed : I.Op → Prop) : Program I α → Prop
  | .done _ => True
  | .abort _ => True
  | .call op next => allowed op ∧ ∀ reply, (next reply).OnlyAsks allowed

theorem onlyAsks_bind {allowed : I.Op → Prop} {p : Program I α}
    {f : α → Program I β} (hp : p.OnlyAsks allowed)
    (hf : ∀ a, (f a).OnlyAsks allowed) : (p.bind f).OnlyAsks allowed := by
  induction p with
  | done a => exact hf a
  | abort message => trivial
  | call op next ih => exact ⟨hp.1, fun reply => ih reply (hp.2 reply)⟩

theorem OnlyAsks.mono {allowed allowed' : I.Op → Prop}
    (hsub : ∀ op, allowed op → allowed' op) {p : Program I α}
    (hp : p.OnlyAsks allowed) : p.OnlyAsks allowed' := by
  induction p with
  | done a => trivial
  | abort message => trivial
  | call op next ih =>
      exact ⟨hsub op hp.1, fun reply => ih reply (hp.2 reply)⟩

theorem OnlyAsks.of_runs {allowed : I.Op → Prop} {p q : Program I α}
    {log : List (Exchange I)} (hp : p.OnlyAsks allowed) (h : Runs p log q) :
    ∀ exchange ∈ log, allowed exchange.op := by
  induction h with
  | refl p => simp
  | step reply _ ih =>
      intro exchange hmem
      rcases List.mem_cons.mp hmem with rfl | hmem
      · exact hp.1
      · exact ih (hp.2 reply) exchange hmem

end Program

/-! ## Interleavings -/

/-- An exchange of one of several programs, made at a reading of the clock. -/
structure Event (I : Interface) where
  clock : Nat
  program : Nat
  exchange : Exchange I

def exchangesOf {I : Interface} (id : Nat) (events : List (Event I)) :
    List (Exchange I) :=
  (events.filter fun event => event.program = id).map Event.exchange

@[simp] theorem exchangesOf_append {I : Interface} (id : Nat)
    (first second : List (Event I)) :
    exchangesOf id (first ++ second) =
      exchangesOf id first ++ exchangesOf id second := by
  simp [exchangesOf]

/-- A schedule in which every program only does what it can do. -/
def Interleaves {I : Interface} {α : Type} (programs : Nat → Program I α)
    (events : List (Event I)) : Prop :=
  ∀ id, ∃ q, (programs id).Runs (exchangesOf id events) q

theorem mem_exchangesOf {I : Interface} {id : Nat} {events : List (Event I)}
    {exchange : Exchange I} :
    exchange ∈ exchangesOf id events ↔
      ∃ event ∈ events, event.program = id ∧ event.exchange = exchange := by
  simp [exchangesOf, and_assoc]

/-- A stretch in which one program makes the exchanges of `log`. -/
def eventsAt {I : Interface} (clock id : Nat) (log : List (Exchange I)) :
    List (Event I) :=
  log.map fun exchange => ⟨clock, id, exchange⟩

theorem exchangesOf_eventsAt {I : Interface} (clock program id : Nat)
    (log : List (Exchange I)) :
    exchangesOf id (eventsAt clock program log) =
      if program = id then log else [] := by
  unfold exchangesOf eventsAt
  rw [List.filter_map, List.map_map]
  by_cases h : program = id
  · simp [h, Function.comp_def]
  · simp [h, Function.comp_def]

end ServiceRouter.Foundation
