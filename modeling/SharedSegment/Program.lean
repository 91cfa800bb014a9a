import SharedSegment.Event
import SharedSegment.Host.Request

/-!
# Programs

A program is a tree: it ends with a value, puts something out and goes on, or asks its host for
something and goes on with the answer. Everything between two requests happens at once, so that
every interleaving of several programs, and every point where one is killed, is a choice of
requests.
-/

namespace SharedSegment

/-- What a program puts out on its way. -/
inductive Output where
  /-- A log event. -/
  | log (e : Event)
  /-- A line of text. -/
  | line (s : String)
deriving DecidableEq

/-- What is put out, as a line. -/
def Output.text : Output → String
  | .log e => e.line
  | .line s => s

/-- A program that ends with a value. -/
inductive Program (α : Type) where
  | ret (a : α)
  | put (o : Output) (rest : Program α)
  | ask (r : Request) (next : r.Answer → Program α)

namespace Program

def bind {α β : Type} : Program α → (α → Program β) → Program β
  | .ret a, f => f a
  | .put o rest, f => .put o (rest.bind f)
  | .ask r next, f => .ask r fun a => (next a).bind f

instance : Monad Program where
  pure := .ret
  bind := bind

def request (r : Request) : Program r.Answer :=
  .ask r .ret

def log (e : Event) : Program Unit :=
  .put (.log e) (.ret ())

/-- Records an event if something has failed. -/
def logFailure (r : Except Errno Unit) (e : Errno → Event) : Program Unit :=
  match r with
  | .ok () => return ()
  | .error errno => log (e errno)

def line (s : String) : Program Unit :=
  .put (.line s) (.ret ())

/-- A program that records only some events. -/
def keepLogs {α : Type} (keep : Event → Bool) : Program α → Program α
  | .ret a => .ret a
  | .put (.log e) rest => if keep e then .put (.log e) (rest.keepLogs keep) else rest.keepLogs keep
  | .put (.line s) rest => .put (.line s) (rest.keepLogs keep)
  | .ask r next => .ask r fun a => (next a).keepLogs keep

@[simp] theorem pure_eq_ret {α : Type} (a : α) : (pure a : Program α) = .ret a := rfl

@[simp] theorem bind_eq {α β : Type} (p : Program α) (f : α → Program β) :
    (p >>= f) = p.bind f := rfl

@[simp] theorem ret_bind {α β : Type} (a : α) (f : α → Program β) :
    (Program.ret a).bind f = f a := rfl

@[simp] theorem bind_ret {α : Type} (p : Program α) : p.bind .ret = p := by
  induction p with
  | ret a => rfl
  | put o rest ih => rw [bind, ih]
  | ask r next ih =>
    rw [bind]
    congr
    exact funext ih

theorem bind_assoc {α β γ : Type} (p : Program α) (f : α → Program β) (g : β → Program γ) :
    (p.bind f).bind g = p.bind fun a => (f a).bind g := by
  induction p with
  | ret a => rfl
  | put o rest ih => simp only [bind, ih]
  | ask r next ih => simp only [bind, ih]

instance : LawfulMonad Program :=
  LawfulMonad.mk' Program (fun p => bind_ret p) (fun _ _ => rfl) bind_assoc

end Program
end SharedSegment
