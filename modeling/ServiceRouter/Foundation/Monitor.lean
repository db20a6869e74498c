import ServiceRouter.Foundation.Interaction

/-!
# Programs watched by a monitor

A monitor remembers what it has seen of the exchanges of a program, replies
included, and says which questions may be asked then.  A program obeys the
monitor if all its questions are allowed whatever the replies are.
-/

namespace ServiceRouter.Foundation

structure Monitor (I : Interface) (σ : Type) where
  allowed : σ → I.Op → Prop
  next : σ → Exchange I → σ

variable {I : Interface} {σ α β : Type} {M : Monitor I σ}

namespace Monitor

def after (M : Monitor I σ) (s : σ) (log : List (Exchange I)) : σ :=
  log.foldl M.next s

def Accepts (M : Monitor I σ) : σ → List (Exchange I) → Prop
  | _, [] => True
  | s, exchange :: log =>
      M.allowed s exchange.op ∧ M.Accepts (M.next s exchange) log

@[simp] theorem after_nil (s : σ) : M.after s [] = s := rfl

@[simp] theorem after_cons (s : σ) (exchange : Exchange I)
    (log : List (Exchange I)) :
    M.after s (exchange :: log) = M.after (M.next s exchange) log := rfl

theorem after_append (s : σ) (first second : List (Exchange I)) :
    M.after s (first ++ second) = M.after (M.after s first) second :=
  List.foldl_append

/-- Each question was allowed after the exchanges before it. -/
theorem Accepts.allowed_at {s : σ} {first rest : List (Exchange I)}
    {exchange : Exchange I} (h : M.Accepts s (first ++ exchange :: rest)) :
    M.allowed (M.after s first) exchange.op := by
  induction first generalizing s with
  | nil => exact h.1
  | cons seen first ih => exact ih h.2

/-- A monitor that remembers all it has seen. -/
def history (allowed : List (Exchange I) → I.Op → Prop) :
    Monitor I (List (Exchange I)) where
  allowed := allowed
  next log exchange := log ++ [exchange]

theorem history_after {allowed : List (Exchange I) → I.Op → Prop}
    (log rest : List (Exchange I)) :
    (history allowed).after log rest = log ++ rest := by
  induction rest generalizing log with
  | nil => rw [after_nil, List.append_nil]
  | cons exchange rest ih =>
      rw [after_cons, ih, history, List.append_assoc, List.singleton_append]

end Monitor

namespace Program

/-- `post` relates what the monitor has seen to the result. -/
def Obeys (M : Monitor I σ) (post : σ → α → Prop) : σ → Program I α → Prop
  | s, .done a => post s a
  | _, .abort _ => True
  | s, .call op next =>
      M.allowed s op ∧
        ∀ reply, (next reply).Obeys M post (M.next s ⟨op, reply⟩)

theorem obeys_bind {p : Program I α} {f : α → Program I β}
    {post : σ → β → Prop} {s : σ} :
    (p.bind f).Obeys M post s ↔
      p.Obeys M (fun s a => (f a).Obeys M post s) s := by
  induction p generalizing s with
  | done a => exact Iff.rfl
  | abort message => exact Iff.rfl
  | call op next ih =>
      apply and_congr_right
      intro _
      apply forall_congr'
      intro reply
      exact ih reply

theorem Obeys.mono {p : Program I α} {post post' : σ → α → Prop} {s : σ}
    (h : p.Obeys M post s) (hpost : ∀ s a, post s a → post' s a) :
    p.Obeys M post' s := by
  induction p generalizing s with
  | done a => exact hpost s a h
  | abort message => trivial
  | call op next ih => exact ⟨h.1, fun reply => ih reply (h.2 reply)⟩

/-- A part that asks only what is always allowed is judged by its runs. -/
theorem obeys_of_onlyAsks {free : I.Op → Prop} {p : Program I α}
    {post : σ → α → Prop} {s : σ} (hp : p.OnlyAsks free)
    (hfree : ∀ s op, free op → M.allowed s op)
    (hpost : ∀ log a, p.Returns log a → post (M.after s log) a) :
    p.Obeys M post s := by
  induction p generalizing s with
  | done a => exact hpost [] a (.refl _)
  | abort message => trivial
  | call op next ih =>
      refine ⟨hfree s op hp.1, fun reply => ih reply (hp.2 reply) ?_⟩
      intro log a h
      exact hpost (⟨op, reply⟩ :: log) a (.step reply h)

/-- The monitor accepts the log of a run, and watches what remains. -/
theorem Obeys.of_runs {p q : Program I α} {post : σ → α → Prop} {s : σ}
    {log : List (Exchange I)} (hp : p.Obeys M post s) (h : p.Runs log q) :
    M.Accepts s log ∧ q.Obeys M post (M.after s log) := by
  induction h generalizing s with
  | refl p => exact ⟨trivial, hp⟩
  | step reply _ ih =>
      obtain ⟨haccepts, hrest⟩ := ih (hp.2 reply)
      exact ⟨⟨hp.1, haccepts⟩, hrest⟩

end Program

end ServiceRouter.Foundation
