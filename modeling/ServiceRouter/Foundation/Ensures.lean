import ServiceRouter.Foundation.Serving

/-!
# What a program ensures

`p.Ensures answered post` says that, whatever admitted replies the program is
given, it does not abort, and that what it returns satisfies `post`.  Each rule
is an equivalence, so that it also tells when a program ensures nothing.
-/

namespace ServiceRouter.Foundation.Program

variable {I : Interface} {α β : Type}
  {answered : (op : I.Op) → I.Reply op → Prop}

def Ensures (answered : (op : I.Op) → I.Reply op → Prop) (post : α → Prop) :
    Program I α → Prop
  | .done a => post a
  | .abort _ => False
  | .call op next =>
      ∀ reply, answered op reply → (next reply).Ensures answered post

@[simp] theorem ensures_done {post : α → Prop} {a : α} :
    (Program.done a : Program I α).Ensures answered post ↔ post a := Iff.rfl

@[simp] theorem ensures_abort {post : α → Prop} {message : String} :
    (Program.abort message : Program I α).Ensures answered post ↔ False :=
  Iff.rfl

theorem ensures_bind {p : Program I α} {f : α → Program I β}
    {post : β → Prop} :
    (p.bind f).Ensures answered post ↔
      p.Ensures answered fun a => (f a).Ensures answered post := by
  induction p with
  | done a => exact Iff.rfl
  | abort message => exact Iff.rfl
  | call op next ih =>
      apply forall_congr'
      intro reply
      apply imp_congr_right
      intro _
      exact ih reply

/-- No run with admitted replies aborts or returns anything else. -/
theorem Ensures.of_runs {p q : Program I α} {post : α → Prop}
    {log : List (Exchange I)} (hp : p.Ensures answered post)
    (h : p.Runs log q)
    (hlog : ∀ exchange ∈ log, answered exchange.op exchange.reply) :
    q.Ensures answered post := by
  induction h with
  | refl p => exact hp
  | step reply _ ih =>
      rw [List.forall_mem_cons] at hlog
      exact ih (hp reply hlog.1) hlog.2

/-- A server that gives admitted replies obtains such a result. -/
theorem Ensures.of_serve {σ : Type}
    {answers : σ → (op : I.Op) → I.Reply op × σ} (inv : σ → Prop)
    (hinv : ∀ s op, inv s → inv (answers s op).2)
    (hanswers : ∀ s op, inv s → answered op (answers s op).1)
    {p : Program I α} {post : α → Prop} (hp : p.Ensures answered post)
    {s : σ} (hs : inv s) :
    ∃ a, (serve answers s p).result = some a ∧ post a := by
  induction p generalizing s with
  | done a => exact ⟨a, rfl, hp⟩
  | abort message => exact hp.elim
  | call op next ih =>
      exact ih _ (hp _ (hanswers s op hs)) (hinv s op hs)

end ServiceRouter.Foundation.Program
