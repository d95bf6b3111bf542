import WebAuth.Session.Realm
import WebAuth.Supply
import WebAuth.Token.Validator

/-!
# What requests share

Requests are handled one after another in a world that they change: the session
realm, the network with the key caches of validators, and the supply of random
octets.  The world also keeps a journal for an application's own notes and the log
in which the request pipeline says how it dispatches requests.

Main results:

* `World.inRealm_apply`: work on the realm leaves the rest of the world alone.
-/

namespace WebAuth.Web

open Http

/-- How much a log entry matters. -/
inductive LogLevel where
  | debug
  | info
  | warn
deriving DecidableEq, Repr

/-- An entry of the log. -/
structure LogEntry where
  level : LogLevel
  text : String
deriving DecidableEq, Repr

/-- What requests share. -/
structure World where
  realm : Realm
  network : Network
  /-- The key caches of validators, by the validators' numbers. -/
  keyCaches : Nat → KeyCache
  /-- A clock that only measures ages. -/
  steadyClock : Nat
  csrfOctets : Supply (List UInt8)
  /-- What an application has noted, the latest first. -/
  journal : List String
  /-- The log of how requests are dispatched, the latest entry first; what single filters
  and strategies have to say is not in it. -/
  log : List LogEntry

namespace World

/-- A world in which nothing has happened. -/
def initial (realm : Realm) (network : Network) (csrfOctets : Supply (List UInt8)) : World :=
  ⟨realm, network, fun _ => KeyCache.empty, 0, csrfOctets, [], []⟩

/-- Work on the realm. -/
def inRealm {ε α : Type} (x : Run Realm ε α) : Run World ε α :=
  x.within World.realm (fun w r => { w with realm := r })

/-- The key cache of a validator and the network. -/
def desk (number : Nat) (w : World) : KeyDesk := ⟨w.keyCaches number, w.network⟩

/-- Put the key cache of a validator and the network back. -/
def setDesk (number : Nat) (w : World) (d : KeyDesk) : World :=
  { w with
    keyCaches := fun n => if n = number then d.cache else w.keyCaches n
    network := d.network }

/-- Work on the key cache of a validator. -/
def inDesk {ε α : Type} (number : Nat) (x : Run KeyDesk ε α) : Run World ε α :=
  x.within (desk number) (setDesk number)

/-- The two clocks. -/
def moment (w : World) : Moment := ⟨w.steadyClock, w.realm.clock.seconds⟩

/-- Take random octets. -/
def drawOctets {ε : Type} : Run World ε (List UInt8) := fun w =>
  (.value w.csrfOctets.next, { w with csrfOctets := w.csrfOctets.advance })

/-- Note something in the journal. -/
def note {ε : Type} (text : String) : Run World ε Unit :=
  .change (fun w => { w with journal := text :: w.journal })

/-- Add an entry to the log. -/
def report {ε : Type} (level : LogLevel) (text : String) : Run World ε Unit :=
  .change (fun w => { w with log := ⟨level, text⟩ :: w.log })

/-- Work on the realm leaves the rest of the world alone. -/
@[simp]
theorem inRealm_apply {ε α : Type} (x : Run Realm ε α) (w : World) :
    inRealm x w = ((x w.realm).1, { w with realm := (x w.realm).2 }) :=
  rfl

end World

end WebAuth.Web
