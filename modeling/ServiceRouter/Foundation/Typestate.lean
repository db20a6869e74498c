import ServiceRouter.Foundation.Interaction

/-!
# Programs that follow a protocol

A protocol keeps a state of its own: it says which questions may be asked in a
state and how a question changes it.  A program follows the protocol if, from
the given state, all its questions are allowed whatever the replies are.
-/

namespace ServiceRouter.Foundation

structure Typestate (I : Interface) (σ : Type) where
  allowed : σ → I.Op → Prop
  next : σ → I.Op → σ

variable {I : Interface} {σ α β : Type} {T : Typestate I σ}

namespace Typestate

def after (T : Typestate I σ) : σ → List (Exchange I) → σ
  | s, [] => s
  | s, exchange :: log => T.after (T.next s exchange.op) log

def Accepts (T : Typestate I σ) : σ → List (Exchange I) → Prop
  | _, [] => True
  | s, exchange :: log =>
      T.allowed s exchange.op ∧ T.Accepts (T.next s exchange.op) log

end Typestate

namespace Program

/-- `post` relates the last state of the protocol to the result. -/
def Follows (T : Typestate I σ) (post : σ → α → Prop) :
    σ → Program I α → Prop
  | s, .done a => post s a
  | _, .abort _ => True
  | s, .call op next =>
      T.allowed s op ∧ ∀ reply, (next reply).Follows T post (T.next s op)

theorem follows_bind {p : Program I α} {f : α → Program I β}
    {post : σ → β → Prop} {s : σ} :
    (p.bind f).Follows T post s ↔
      p.Follows T (fun s a => (f a).Follows T post s) s := by
  induction p generalizing s with
  | done a => exact Iff.rfl
  | abort message => exact Iff.rfl
  | call op next ih =>
      apply and_congr_right
      intro _
      apply forall_congr'
      intro reply
      exact ih reply

theorem Follows.mono {p : Program I α} {post post' : σ → α → Prop} {s : σ}
    (h : p.Follows T post s) (hpost : ∀ s a, post s a → post' s a) :
    p.Follows T post' s := by
  induction p generalizing s with
  | done a => exact hpost s a h
  | abort message => trivial
  | call op next ih => exact ⟨h.1, fun reply => ih reply (h.2 reply)⟩

/-- Every run keeps to the protocol. -/
theorem Follows.of_runs {p q : Program I α} {post : σ → α → Prop} {s : σ}
    {log : List (Exchange I)} (h : p.Follows T post s) (hrun : p.Runs log q) :
    T.Accepts s log ∧ q.Follows T post (T.after s log) := by
  induction hrun generalizing s with
  | refl p => exact ⟨trivial, h⟩
  | step reply _ ih =>
      obtain ⟨haccepts, hrest⟩ := ih (h.2 reply)
      exact ⟨⟨h.1, haccepts⟩, hrest⟩

end Program

end ServiceRouter.Foundation
