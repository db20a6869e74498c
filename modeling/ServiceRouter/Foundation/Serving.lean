import ServiceRouter.Foundation.Interaction

/-!
# Serving a program

A server answers every question of a program from its state.  Questions whose
answer is known from the start can be answered beforehand; what remains of the
program is served with the same outcome.
-/

namespace ServiceRouter.Foundation.Program

variable {I : Interface} {σ τ α β : Type}

/-! ## Outcomes -/

structure Outcome (I : Interface) (σ α : Type) where
  log : List (Exchange I)
  state : σ
  /-- `none` when the program aborted. -/
  result : Option α

def serve (answers : σ → (op : I.Op) → I.Reply op × σ) :
    σ → Program I α → Outcome I σ α
  | s, .done a => ⟨[], s, some a⟩
  | s, .abort _ => ⟨[], s, none⟩
  | s, .call op next =>
      let answer := answers s op
      let rest := serve answers answer.2 (next answer.1)
      ⟨⟨op, answer.1⟩ :: rest.log, rest.state, rest.result⟩

/-- The rest of a program is served from the state its first part left. -/
theorem serve_bind {answers : σ → (op : I.Op) → I.Reply op × σ}
    {p : Program I α} {s : σ} {a : α}
    (h : (serve answers s p).result = some a) (f : α → Program I β) :
    let first := serve answers s p
    let rest := serve answers first.state (f a)
    serve answers s (p.bind f) =
      ⟨first.log ++ rest.log, rest.state, rest.result⟩ := by
  induction p generalizing s with
  | done b =>
      cases h
      rfl
  | abort message => cases h
  | call op next ih =>
      have hrest := ih (answers s op).1 h
      dsimp only at hrest ⊢
      rw [bind, serve, hrest]
      rfl

/-- A program whose first part aborts has aborted. -/
theorem serve_bind_of_none {answers : σ → (op : I.Op) → I.Reply op × σ}
    {p : Program I α} {s : σ} (h : (serve answers s p).result = none)
    (f : α → Program I β) :
    serve answers s (p.bind f) =
      ⟨(serve answers s p).log, (serve answers s p).state, none⟩ := by
  induction p generalizing s with
  | done a => cases h
  | abort message => rfl
  | call op next ih =>
      have hrest := ih (answers s op).1 h
      rw [bind, serve, hrest]
      rfl

/-- What is served is a run of the program. -/
theorem serve_returns {answers : σ → (op : I.Op) → I.Reply op × σ}
    {p : Program I α} {s : σ} {a : α}
    (h : (serve answers s p).result = some a) :
    p.Returns (serve answers s p).log a := by
  induction p generalizing s with
  | done b =>
      cases h
      exact .refl _
  | abort message => cases h
  | call op next ih => exact .step _ (ih (answers s op).1 h)

/-- What the allowed questions preserve, a program that asks no others
preserves. -/
theorem serve_state {answers : σ → (op : I.Op) → I.Reply op × σ}
    {allowed : I.Op → Prop} (inv : σ → Prop)
    (hinv : ∀ s op, allowed op → inv s → inv (answers s op).2)
    {p : Program I α} (hp : p.OnlyAsks allowed) {s : σ} (hs : inv s) :
    inv (serve answers s p).state := by
  induction p generalizing s with
  | done a => exact hs
  | abort message => exact hs
  | call op next ih => exact ih _ (hp.2 _) (hinv s op hp.1 hs)

/-! ## Outcomes that agree -/

/-- The same exchanges, and results that are related. -/
def Outcome.Alike (R : α → β → Prop) (first : Outcome I σ α)
    (second : Outcome I τ β) : Prop :=
  first.log = second.log ∧ Option.Rel R first.result second.result

theorem Outcome.Alike.rfl {R : α → α → Prop} (hR : ∀ a, R a a)
    (outcome : Outcome I σ α) : outcome.Alike R outcome := by
  refine ⟨.refl _, ?_⟩
  cases outcome.result with
  | none => exact .none
  | some a => exact .some (hR a)

/-- Programs with a common first part are served alike if what follows it
is. -/
theorem alike_bind {γ δ : Type} {R : γ → δ → Prop}
    {answers : σ → (op : I.Op) → I.Reply op × σ} {p : Program I α}
    {f : α → Program I γ} {g : α → Program I δ} {s : σ}
    (h : ∀ a, (serve answers s p).result = some a →
      (serve answers (serve answers s p).state (f a)).Alike R
        (serve answers (serve answers s p).state (g a))) :
    (serve answers s (p.bind f)).Alike R (serve answers s (p.bind g)) := by
  cases hresult : (serve answers s p).result with
  | none =>
      rw [serve_bind_of_none hresult, serve_bind_of_none hresult]
      exact ⟨.refl _, .none⟩
  | some a =>
      obtain ⟨hlog, hrel⟩ := h a hresult
      rw [serve_bind hresult, serve_bind hresult]
      exact ⟨congrArg _ hlog, hrel⟩

/-! ## Known answers -/

def answering (known : (op : I.Op) → Option (I.Reply op)) :
    Program I α → Program I α
  | .done a => .done a
  | .abort message => .abort message
  | .call op next =>
      match known op with
      | some reply => (next reply).answering known
      | none => .call op fun reply => (next reply).answering known

section Answering

variable {known : (op : I.Op) → Option (I.Reply op)}

theorem answering_call_of_some {op : I.Op} {next : I.Reply op → Program I α}
    {reply : I.Reply op} (h : known op = some reply) :
    (Program.call op next).answering known =
      (next reply).answering known := by
  rw [answering, h]

theorem answering_call_of_none {op : I.Op} {next : I.Reply op → Program I α}
    (h : known op = none) :
    (Program.call op next).answering known =
      .call op fun reply => (next reply).answering known := by
  rw [answering, h]

theorem answering_bind (p : Program I α) (f : α → Program I β) :
    (p.bind f).answering known =
      (p.answering known).bind fun a => (f a).answering known := by
  induction p with
  | done a => rfl
  | abort message => rfl
  | call op next ih =>
      rw [bind]
      cases hknown : known op with
      | some reply =>
          rw [answering_call_of_some hknown, answering_call_of_some hknown,
            ih]
      | none =>
          rw [answering_call_of_none hknown, answering_call_of_none hknown,
            bind]
          congr 1
          funext reply
          exact ih reply

theorem answering_of_onlyAsks {p : Program I α}
    (h : p.OnlyAsks fun op => known op = none) : p.answering known = p := by
  induction p with
  | done a => rfl
  | abort message => rfl
  | call op next ih =>
      rw [answering_call_of_none h.1]
      congr 1
      funext reply
      exact ih reply (h.2 reply)

theorem answering_bind_of_onlyAsks {p : Program I α}
    (h : p.OnlyAsks fun op => known op = none) (f : α → Program I β) :
    (p.bind f).answering known =
      p.bind fun a => (f a).answering known := by
  rw [answering_bind, answering_of_onlyAsks h]

theorem answering_bind_of_done {p : Program I α} {a : α}
    (h : p.answering known = .done a) (f : α → Program I β) :
    (p.bind f).answering known = (f a).answering known := by
  rw [answering_bind, h, done_bind]

theorem onlyAsks_answering (p : Program I α) :
    (p.answering known).OnlyAsks fun op => known op = none := by
  induction p with
  | done a => trivial
  | abort message => trivial
  | call op next ih =>
      cases hknown : known op with
      | some reply =>
          rw [answering_call_of_some hknown]
          exact ih reply
      | none =>
          rw [answering_call_of_none hknown]
          exact ⟨hknown, ih⟩

/-- The server gives the known answers, and giving one changes nothing. -/
def AnswersKnown (answers : σ → (op : I.Op) → I.Reply op × σ)
    (known : (op : I.Op) → Option (I.Reply op)) (s : σ) : Prop :=
  ∀ op reply, known op = some reply → answers s op = (reply, s)

def Outcome.visible (visible : I.Op → Bool) (outcome : Outcome I σ α) :
    List (Exchange I) × Option α :=
  (outcome.log.filter fun exchange => visible exchange.op, outcome.result)

/-- A first part that asks nothing visible only leaves its state and its
result. -/
theorem visible_bind {answers : σ → (op : I.Op) → I.Reply op × σ}
    {visible : I.Op → Bool} {p : Program I α}
    (hp : p.OnlyAsks fun op => visible op = false) {s : σ} {a : α}
    (h : (serve answers s p).result = some a) (f : α → Program I β) :
    (serve answers s (p.bind f)).visible visible =
      (serve answers (serve answers s p).state (f a)).visible visible := by
  have hhidden : (serve answers s p).log.filter
      (fun exchange => visible exchange.op) = [] := by
    rw [List.filter_eq_nil_iff]
    intro exchange hmem
    rw [hp.of_runs (serve_returns h) exchange hmem]
    exact Bool.false_ne_true
  rw [serve_bind h, Outcome.visible, Outcome.visible, List.filter_append,
    hhidden]
  rfl

theorem serve_answering {answers : σ → (op : I.Op) → I.Reply op × σ}
    {visible : I.Op → Bool} (inv : σ → Prop) (p : Program I α) (s : σ)
    (hinv : ∀ s op, inv s → inv (answers s op).2)
    (hanswers : ∀ s, inv s → AnswersKnown answers known s)
    (hhidden : ∀ op reply, known op = some reply → visible op = false)
    (hs : inv s) :
    (serve answers s p).visible visible =
      (serve answers s (p.answering known)).visible visible := by
  induction p generalizing s with
  | done a => rfl
  | abort message => rfl
  | call op next ih =>
      cases hknown : known op with
      | some reply =>
          have hanswer := hanswers s hs op reply hknown
          have hnot := hhidden op reply hknown
          rw [answering_call_of_some hknown, ← ih reply s hs]
          simp [serve, hanswer, Outcome.visible, hnot]
      | none =>
          have hrest := ih (answers s op).1 (answers s op).2 (hinv s op hs)
          simp only [Outcome.visible, Prod.mk.injEq] at hrest
          rw [answering_call_of_none hknown]
          simp only [serve, Outcome.visible, List.filter_cons, hrest.1,
            hrest.2]

end Answering

/-! ## Servers that answer alike -/

/-- Related states give the same answers to the allowed questions and stay
related. -/
def AnswersAlike (answers : σ → (op : I.Op) → I.Reply op × σ)
    (answers' : τ → (op : I.Op) → I.Reply op × τ) (R : σ → τ → Prop)
    (allowed : I.Op → Prop) : Prop :=
  ∀ s t op, R s t → allowed op →
    (answers s op).1 = (answers' t op).1 ∧
      R (answers s op).2 (answers' t op).2

theorem serve_alike {answers : σ → (op : I.Op) → I.Reply op × σ}
    {answers' : τ → (op : I.Op) → I.Reply op × τ} {R : σ → τ → Prop}
    {allowed : I.Op → Prop} (halike : AnswersAlike answers answers' R allowed)
    {p : Program I α} (hp : p.OnlyAsks allowed) {s : σ} {t : τ}
    (hR : R s t) :
    (serve answers s p).log = (serve answers' t p).log ∧
      (serve answers s p).result = (serve answers' t p).result ∧
      R (serve answers s p).state (serve answers' t p).state := by
  induction p generalizing s t with
  | done a => exact ⟨rfl, rfl, hR⟩
  | abort message => exact ⟨rfl, rfl, hR⟩
  | call op next ih =>
      obtain ⟨hreply, hnext⟩ := halike s t op hR hp.1
      have hrest := ih (answers s op).1 (hp.2 _) hnext
      rw [serve, serve, ← hreply]
      exact ⟨congrArg _ hrest.1, hrest.2⟩

end ServiceRouter.Foundation.Program
