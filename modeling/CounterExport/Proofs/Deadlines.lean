import CounterExport.Command.Program
import CounterExport.Proofs.Build

/-!
# Deadlines that the clock cannot represent

A deadline is an instant, and an instant lies less than `2^63` seconds from the clock's origin.
The command line's timeout check accepts any duration below `2^64` seconds, so a scrape context
made with an accepted timeout can still have a deadline the clock cannot represent, and making
it panics. `scrape_context_made_iff_deadline_representable` gives the exact condition, and
`runParsed_panics_iff` lifts it to the program: it panics before its first scrape exactly when
the timeout it accepted ends past the clock's range, as `1e19` seconds does at the origin.
-/

set_option autoImplicit false

namespace CounterExport.Scrape

/-! ## Instants and deadlines -/

namespace Instant

theorem add?_eq_none_iff (t : Instant) (nanos : Nat) :
    t.add? nanos = none ↔ instantLimit ≤ t.nanos + nanos := by
  by_cases h : t.nanos + nanos < instantLimit
  · simp [add?, h]
  · simp [add?, h]
    omega

theorem nanos_of_add? {t u : Instant} {nanos : Nat} (h : t.add? nanos = some u) :
    u.nanos = t.nanos + nanos := by
  unfold add? at h
  split at h
  · cases h
    rfl
  · cases h

end Instant

namespace Context

theorem child_eq_none_iff (now : Instant) (ctx : Context) (nanos : Nat) :
    ctx.child now nanos = none ↔ instantLimit ≤ now.nanos + nanos := by
  simp [child, Instant.add?_eq_none_iff]

theorem child_eq_some {now : Instant} {ctx c : Context} {nanos : Nat}
    (h : ctx.child now nanos = some c) :
    c.flag = ctx.flag ∧ ∃ t, c.deadline = some t ∧ t.nanos = now.nanos + nanos := by
  obtain ⟨t, ht, rfl⟩ := Option.map_eq_some_iff.1 h
  exact ⟨rfl, t, rfl, Instant.nanos_of_add? ht⟩

end Context

/-- A scrape context can be made from any parent at clock reading `now` exactly when the
    scrape timeout, if one is set, ends at an instant the clock represents. -/
theorem scrapeContextFrom_eq_none_iff (ex : Exporter) (now : Instant) (parent : Context) :
    ex.scrapeContextFrom now parent = none ↔
      ∃ nanos, ex.timeout = some nanos ∧ instantLimit ≤ now.nanos + nanos := by
  unfold Exporter.scrapeContextFrom
  split
  · rename_i nanos hto
    simp [hto, Context.child_eq_none_iff]
  · rename_i hto
    simp [hto]

/-- A scrape context is made from any parent at any clock reading exactly when the scrape
    timeout, if one is set, ends before the clock's range does; otherwise making it panics. -/
theorem scrape_context_made_iff_deadline_representable (ex : Exporter) (now : Instant)
    (parent : Context) :
    (ex.scrapeContextFrom now parent).isSome ↔
      ∀ nanos, ex.timeout = some nanos → now.nanos + nanos < instantLimit := by
  rw [Option.isSome_iff_ne_none, ne_eq, scrapeContextFrom_eq_none_iff]
  simp only [not_exists, not_and, Int.not_le]

theorem flag_of_scrapeContextFrom {ex : Exporter} {now : Instant} {parent ctx : Context}
    (h : ex.scrapeContextFrom now parent = some ctx) : ctx.flag = parent.flag := by
  unfold Exporter.scrapeContextFrom at h
  split at h
  · exact (Context.child_eq_some h).1
  · cases h
    rfl

end CounterExport.Scrape

namespace CounterExport.Command

open Scrape CounterExport.Metric

theorem timeout_of_build {v : Validator} {source : Source} {opts : Options} {ex : Exporter}
    (h : (Exporter.build v source opts).2 = .ok ex) : ex.timeout = opts.timeout := by
  obtain ⟨_, _, rfl⟩ := Exporter.eq_ofActive h
  rfl

/-- The program scrapes only with an exporter whose timeout is the one its option gives, in
    nanoseconds, and only when the option's value is a duration. -/
theorem timeout_of_startup {v : Validator} {args : Args} {events : List Log.Event}
    {ex : Exporter} (hs : startup v args = .scraping events ex) (nanos : Nat) :
    ex.timeout = some nanos ↔
      ∃ x, args.scrapeTimeout = some x ∧ nanosOfSeconds x = .ok nanos := by
  dsimp only [startup] at hs
  split at hs
  · split at hs <;> cases hs
  split at hs
  · cases hs
  split at hs
  · cases hs
  split at hs
  · cases hs
  rename_i timeout htimeout _ built hbuild
  -- with or without an interval, the program scrapes with the exporter just built
  have hex : built = ex := by split at hs <;> cases hs <;> rfl
  subst hex
  rw [timeout_of_build hbuild]
  cases hx : args.scrapeTimeout with
  | none =>
    simp only [hx, Except.ok.injEq] at htimeout
    simp [← htimeout]
  | some x =>
    simp only [hx] at htimeout
    cases hn : nanosOfSeconds x with
    | error e => simp [hn, Except.map, Except.mapError] at htimeout
    | ok n =>
      simp only [hn, Except.map, Except.mapError, Except.ok.injEq] at htimeout
      simp [← htimeout, hn]

/-- Once the exporter is built, the program panics before its first scrape exactly when it
    accepted a scrape timeout that ends, from the world's clock reading, past every instant the
    clock represents. -/
theorem runParsed_panics_iff (v : Validator) (w : World) (args : Args) :
    (∃ events,
      runParsed v w args = ⟨some panicStatus, false, "", events, [], deadlinePanicLines⟩) ↔
      ∃ events ex x nanos, startup v args = .scraping events ex ∧ args.scrapeTimeout = some x ∧
        nanosOfSeconds x = .ok nanos ∧ instantLimit ≤ w.clock.nanos + nanos := by
  constructor
  · rintro ⟨events, hrun⟩
    cases hs : startup v args with
    | finished out evs status => simp [runParsed, hs, deadlinePanicLines] at hrun
    | scraping evs ex =>
      cases hc : ex.scrapeContextFrom w.clock (Context.background #[]).2 with
      | none =>
        obtain ⟨nanos, hto, hle⟩ := (scrapeContextFrom_eq_none_iff ex _ _).1 hc
        obtain ⟨x, hx, hn⟩ := (timeout_of_startup hs nanos).1 hto
        exact ⟨evs, ex, x, nanos, rfl, hx, hn, hle⟩
      | some ctx =>
        -- a scrape context was made, so every branch left nothing after the log
        have htrailer : (runParsed v w args).trailer = [] := by
          simp only [runParsed, hs, hc]
          split
          · rfl
          · split <;> rfl
        simp [hrun, deadlinePanicLines] at htrailer
  · rintro ⟨events, ex, x, nanos, hs, hx, hn, hle⟩
    have hto : ex.timeout = some nanos := (timeout_of_startup hs nanos).2 ⟨x, hx, hn⟩
    have hc : ex.scrapeContextFrom w.clock (Context.background #[]).2 = none :=
      (scrapeContextFrom_eq_none_iff ex _ _).2 ⟨nanos, hto, hle⟩
    exact ⟨events, by simp [runParsed, hs, hc]⟩

/-- `1e19` seconds passes the timeout check, as `10^28` nanoseconds, but that is more than
    `2^63` seconds: at the clock's origin no scrape context can be made with it. -/
theorem timeout_of_1e19_seconds_overflows :
    nanosOfSeconds (Decimal.Binary64.ofFields false 1086 379212872629504) =
      .ok 10000000000000000000000000000 ∧
    ∀ (ex : Exporter) (parent : Context), ex.timeout = some 10000000000000000000000000000 →
      ex.scrapeContextFrom Instant.origin parent = none := by
  refine ⟨rfl, fun ex parent hto => ?_⟩
  simp only [Exporter.scrapeContextFrom, hto]
  exact (Context.child_eq_none_iff _ _ _).2 (by decide)

end CounterExport.Command
