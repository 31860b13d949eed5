import DataPortal.Value.Multiple
/-!
# Groups of settings

Settings that belong together, each with a default. Values are taken as they are given;
whether they are of use shows when they are used.
-/
namespace DataPortal

/-- How a walk over pages goes on after the service asked it to slow down. -/
structure RetryPolicy where
  pageSize : Value
  initialBackoffMs : Value
  maxBackoffMs : Value
  maxAttempts : Value
  /-- Fail at the first such answer instead of waiting. -/
  noRetry : Value

/-- How fast namespaces are walked. -/
structure DiscoveryLimits where
  concurrency : Value
  minRequestIntervalMs : Value

/-- The entries of a group of settings that are given by name. Nothing at all is an empty
group; every name must be known. -/
def settingsGroup (known : List String) (v : Value) : Except Failure (List (Value × Value)) :=
  if v.isTruthy then
    match v with
    | .dict entries =>
      if entries.all (fun (k, _) => known.any (Value.isKey · k)) then .ok entries
      else .error .wrongType
    | _ => .error .wrongType
  else .ok []

/-- Settings by name as a value. -/
def settingsByName (settings : List (String × Value)) : Value :=
  .dict (settings.map fun (name, v) => (.str name, v))

namespace RetryPolicy

/-- The names of the settings. -/
def names : List String :=
  ["page_size", "initial_backoff_ms", "max_backoff_ms", "max_attempts", "no_retry"]

/-- The policy of some settings, the defaults for the others. -/
def ofEntries (entries : List (Value × Value)) : RetryPolicy :=
  { pageSize := (Value.lookup "page_size" entries).getD (.int 100)
    initialBackoffMs := (Value.lookup "initial_backoff_ms" entries).getD (.int 1000)
    maxBackoffMs := (Value.lookup "max_backoff_ms" entries).getD (.int 30000)
    maxAttempts := (Value.lookup "max_attempts" entries).getD (.int 5)
    noRetry := (Value.lookup "no_retry" entries).getD (.bool false) }

/-- The policy without any settings. -/
def standard : RetryPolicy :=
  ofEntries []

/-- The policy of settings given by name. -/
def ofValue (v : Value) : Except Failure RetryPolicy :=
  (settingsGroup names v).map ofEntries

/-- The settings by name. -/
def toValue (p : RetryPolicy) : Value :=
  settingsByName
    [("page_size", p.pageSize), ("initial_backoff_ms", p.initialBackoffMs),
     ("max_backoff_ms", p.maxBackoffMs), ("max_attempts", p.maxAttempts), ("no_retry", p.noRetry)]

/-- The wait before retry number `attempt`, counted from one: it doubles with every retry
up to a maximum. -/
def backoff (p : RetryPolicy) (attempt : Value) : Except Failure Value := do
  let n ← Quantity.ofValue attempt
  let doublings ← n.pred
  let factor ← Quantity.twoToThe doublings
  p.initialBackoffMs.timesAtMost factor p.maxBackoffMs

/-- Whether a page that was sent `attempt` times is given up. -/
def givesUp (p : RetryPolicy) (attempt : Nat) : Except Failure Bool :=
  if p.noRetry.isTruthy then .ok true
  else do
    let most ← Quantity.ofValue p.maxAttempts
    most.isAtMost (.whole attempt)

end RetryPolicy

namespace DiscoveryLimits

/-- The names of the settings. -/
def names : List String :=
  ["concurrency", "min_request_interval_ms"]

/-- The limits of some settings, the defaults for the others. -/
def ofEntries (entries : List (Value × Value)) : DiscoveryLimits :=
  { concurrency := (Value.lookup "concurrency" entries).getD (.int 8)
    minRequestIntervalMs := (Value.lookup "min_request_interval_ms" entries).getD (.int 50) }

/-- The limits without any settings. -/
def standard : DiscoveryLimits :=
  ofEntries []

/-- The limits of settings given by name. -/
def ofValue (v : Value) : Except Failure DiscoveryLimits :=
  (settingsGroup names v).map ofEntries

/-- The settings by name. -/
def toValue (l : DiscoveryLimits) : Value :=
  settingsByName
    [("concurrency", l.concurrency), ("min_request_interval_ms", l.minRequestIntervalMs)]

end DiscoveryLimits
end DataPortal
