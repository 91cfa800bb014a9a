import SharedSegment.Proofs.Interleaving

/-!
# What a program ensures

A protocol says what one party may ask, in a state of its own, how that state goes on with every
answer it may get, and what an output adds to it. A program ensures something if it keeps to the
protocol and whatever the answers are, it ends with what is ensured. This is defined on the tree of
the program (`Program.Ensures`), so that there is one rule for each of its forms and one for `bind`.

Who shows that the host answers as the protocol says has `Ensures.move`: one step of the program
leads on to a program that ensures the same.
-/

namespace SharedSegment

/-- How one party and its host behave, as far as a state of that party tells. -/
structure Protocol (σ : Type) where
  /-- What may be asked in a state. -/
  Permits : σ → Request → Prop
  /-- With which answers to a request a state goes on, and how. -/
  Answers : σ → (r : Request) → r.Answer → σ → Prop
  /-- How a state goes on with an output. -/
  tells : σ → Output → σ

namespace Program

variable {σ α β : Type} {P : Protocol σ}

/-- A program keeps to a protocol from some state on, and ends as a condition says. -/
def Ensures (P : Protocol σ) (post : α → σ → Prop) : Program α → σ → Prop
  | .ret a, s => post a s
  | .put o rest, s => rest.Ensures P post (P.tells s o)
  | .ask r next, s => P.Permits s r ∧ ∀ a s', P.Answers s r a s' → (next a).Ensures P post s'

@[simp] lemma ensures_ret {post : α → σ → Prop} {a s} :
    (Program.ret a).Ensures P post s ↔ post a s := .rfl

@[simp] lemma ensures_put {post : α → σ → Prop} {o rest s} :
    (Program.put o rest).Ensures P post s ↔ rest.Ensures P post (P.tells s o) := .rfl

namespace Ensures

/-- What is ensured may be said with less. -/
lemma mono {post post' : α → σ → Prop} {p : Program α} {s}
    (weaker : ∀ a s, post a s → post' a s) (en : p.Ensures P post s) : p.Ensures P post' s := by
  induction p generalizing s with
  | ret a => exact weaker a s en
  | put o rest ih => exact ih en
  | ask r next ih => exact ⟨en.1, fun a s' ans => ih a (en.2 a s' ans)⟩

/-- What a program ensures is where the next one begins. -/
lemma bind {post : β → σ → Prop} {mid : α → σ → Prop} {p : Program α} {f : α → Program β} {s}
    (en : p.Ensures P mid s) (next : ∀ a s, mid a s → (f a).Ensures P post s) :
    (p.bind f).Ensures P post s := by
  induction p generalizing s with
  | ret a => exact next a s en
  | put o rest ih => exact ih en
  | ask r next' ih => exact ⟨en.1, fun a s' ans => ih a (en.2 a s' ans)⟩

/-- A request keeps to a protocol that permits it. -/
lemma request {post : (r : Request) → r.Answer → σ → Prop} {r s} (may : P.Permits s r)
    (answered : ∀ a s', P.Answers s r a s' → post r a s') :
    (Program.request r).Ensures P (post r) s :=
  ⟨may, answered⟩

end Ensures
end Program

/-- A party that may ask for some things only, and of whose answers nothing is known. -/
def Protocol.asking (ok : Request → Prop) : Protocol Unit where
  Permits _ r := ok r
  Answers _ _ _ _ := True
  tells _ _ := ()

namespace Program

variable {α β : Type} {ok ok' : Request → Prop} {p p' : Program α}

/-- A program asks for some things only. -/
def Asks (p : Program α) (ok : Request → Prop) : Prop :=
  p.Ensures (.asking ok) (fun _ _ => True) ()

/-- What a program that asks for some things only ends with, whatever the answers are. -/
lemma ensures_asking_step {post : α → Unit → Prop} {t : ThreadId} {h h' : Host} {m : Move}
    (en : p.Ensures (.asking ok) post ()) (st : p.Step t h m p' h') :
    p'.Ensures (.asking ok) post () := by
  cases st with
  | tell => exact en
  | wait => exact en
  | answer => exact en.2 _ () trivial
  | strike => exact en.2 _ () trivial

lemma asks_ret (a : α) : (Program.ret a).Asks ok := trivial

lemma asks_put {o : Output} (asks : p.Asks ok) : (Program.put o p).Asks ok := asks

lemma asks_ask {r : Request} {next : r.Answer → Program α} (may : ok r)
    (asks : ∀ a, (next a).Asks ok) : (Program.ask r next).Asks ok :=
  ⟨may, fun a _ _ => asks a⟩

lemma asks_request {r : Request} (may : ok r) : (Program.request r).Asks ok :=
  asks_ask may asks_ret

lemma Asks.bind {f : α → Program β} (asks : p.Asks ok) (next : ∀ a, (f a).Asks ok) :
    (p.bind f).Asks ok :=
  Ensures.bind asks fun a _ _ => next a

lemma asks_anything (p : Program α) : p.Asks fun _ => True := by
  induction p with
  | ret a => exact asks_ret a
  | put o rest ih => exact ih
  | ask r next ih => exact asks_ask trivial ih

/-- A program that asks for some things only asks for no others. -/
lemma Ensures.asking_mono {post : α → Unit → Prop} (en : p.Ensures (.asking ok) post ())
    (weaker : ∀ r, ok r → ok' r) : p.Ensures (.asking ok') post () := by
  induction p with
  | ret a => exact en
  | put o rest ih => exact ih en
  | ask r next ih => exact ⟨weaker r en.1, fun a _ _ => ih a (en.2 a () trivial)⟩

lemma Asks.mono (asks : p.Asks ok) (weaker : ∀ r, ok r → ok' r) : p.Asks ok' :=
  Ensures.asking_mono asks weaker

end Program
end SharedSegment
