/-!
# Scrape contexts

A context tells a scrape whether to stop. It has a cancel flag, which it may share with other
contexts (cancelling one cancels all that share it), and possibly a deadline. A context counts
as cancelled when its flag is set or its deadline has passed.

Time is read from a monotonic clock (`Instant`), in nanoseconds from the clock's origin. The
clock counts whole seconds in a signed 64-bit field, so an instant lies less than `2^63` seconds
from the origin on either side; a deadline past that cannot be made, and making it panics
(`Instant.add?` gives `none`). Flags live in a store (`Flags`), each context naming its flag by
number.
-/

set_option autoImplicit false

namespace CounterExport.Scrape

/-- `2^63` seconds in nanoseconds: no instant lies this far from the clock's origin. -/
def instantLimit : Int := 9223372036854775808000000000

/-- A reading of the monotonic clock, in nanoseconds from its origin. -/
@[ext]
structure Instant where
  nanos : Int
  lt_limit : nanos < instantLimit
  neg_limit_le : -instantLimit ≤ nanos
  deriving DecidableEq, Repr

namespace Instant

/-- The clock's origin. -/
def origin : Instant := ⟨0, by decide, by decide⟩

/-- The instant `nanos` after `t`, if the clock can represent it; adding panics when it
cannot. -/
def add? (t : Instant) (nanos : Nat) : Option Instant :=
  if h : t.nanos + nanos < instantLimit then
    some ⟨t.nanos + nanos, h, by have := t.neg_limit_le; omega⟩
  else none

end Instant

/-- The cancel flags of all contexts. -/
abbrev Flags := Array Bool

/-- A scrape context: the number of its flag and its deadline, if it has one. -/
structure Context where
  flag : Nat
  deadline : Option Instant
  deriving DecidableEq, Repr

namespace Context

/-- A context with a fresh flag and no deadline. -/
def background (flags : Flags) : Flags × Context := (flags.push false, ⟨flags.size, none⟩)

/-- A context made at `now` with a fresh flag and a deadline `nanos` away; `none` when the
deadline cannot be represented. -/
def withTimeout (now : Instant) (flags : Flags) (nanos : Nat) : Option (Flags × Context) :=
  (now.add? nanos).map fun t => (flags.push false, ⟨flags.size, some t⟩)

/-- A context made at `now` sharing this one's flag, with its own deadline `nanos` away; `none`
when the deadline cannot be represented. -/
def child (now : Instant) (ctx : Context) (nanos : Nat) : Option Context :=
  (now.add? nanos).map fun t => { ctx with deadline := some t }

/-- Sets the flag of a context, and so cancels every context sharing it. -/
def cancel (flags : Flags) (ctx : Context) : Flags := flags.setIfInBounds ctx.flag true

/-- Whether the deadline of a context has passed at `now`. -/
def expired (now : Instant) (ctx : Context) : Bool :=
  ctx.deadline.any fun t => decide (t.nanos ≤ now.nanos)

/-- Whether a context counts as cancelled at `now`. -/
def isCancelled (flags : Flags) (now : Instant) (ctx : Context) : Bool :=
  flags.getD ctx.flag false || ctx.expired now

/-- The nanoseconds left at `now` before the deadline, if there is one: none once it has
passed. -/
def remaining (now : Instant) (ctx : Context) : Option Nat :=
  ctx.deadline.map fun t => (t.nanos - now.nanos).toNat

end Context

end CounterExport.Scrape
