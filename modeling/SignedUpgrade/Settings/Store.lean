import SignedUpgrade.Process.Runner
import SignedUpgrade.Settings.Registry
import SignedUpgrade.Toml.Document

/-!
# Stores of settings

A store answers keys with texts.  Asking a store may start a program, so a store is a party that acts
on the site.

* `Store` — a store of settings;
* `Store.environment`, `Store.table`, `Store.registry`, `Store.memory` — the kinds of stores;
* `Store.layered` — several stores in order: the first one with something to say decides.
-/

namespace SignedUpgrade

open Text

/-- Environment variables with their values. -/
abbrev Environment := List (String × String)

/-- The variables with one of them set, or without it where there is no value. -/
def Environment.assign (environment : Environment) (name : String) (value : Option String) :
    Environment :=
  (value.map fun v => (name, v)).toList ++ environment.filter (·.1 ≠ name)

/-- Steps in which stores are asked. -/
abbrev Asking (σ : Type) := ExceptT Failure (StateM (Site σ))

/-- A store of settings.  `none` means that it has nothing under a key. -/
structure Store (σ : Type) where
  /-- How the store is called in the log. -/
  name : String
  ask : String → Asking σ (Option String)

namespace Store

variable {σ : Type}

/-- A store that holds texts under keys. -/
def memory (values : List (String × String)) : Store σ where
  name := "memory"
  ask key := pure (values.lookup key)

/-- The environment variables whose names have a common beginning. -/
def environment (environment : Environment) (start : String) : Store σ where
  name := "environment"
  ask key := pure (environment.lookup (variableName start key))

/-- What the value of a configuration file says as the text of a setting. -/
def settingText (key : String) : Toml.Value → Except Failure String
  | .text s => .ok s
  | .integer n => .ok (toString n)
  | .boolean b => .ok (if b then "true" else "false")
  | v => .error (.configuration (.unsuitable key v.kind))

/-- The values at the top level of a configuration file. -/
def table (values : List (String × Toml.Value)) : Store σ where
  name := "file"
  ask key :=
    match values.lookup key with
    | none => pure none
    | some v => (do return some (← settingText key v) : Except Failure (Option String))

/-- The values of the registry, which a program prints.  That program ends without success where
there is no such value. -/
def registry (runner : Runner σ) : Store σ where
  name := "registry"
  ask key := do
    let name := registryName key
    let output ← ExceptT.mk fun site =>
      runner.run Registry.program (Registry.arguments name) (some Registry.limit) site
    return if output.succeeded then Registry.valueIn? output.stdout name else none

/-! ## Layers -/

/-- Asks stores in order up to the first one with a value that is not blank.  Where there is none,
the first blank value is the answer; `blank` is the first one so far. -/
def askInOrder (key : String) (blank : Option String) : List (Store σ) → Asking σ (Option String)
  | [] => pure blank
  | store :: stores => do
    match ← store.ask key with
    | none => askInOrder key blank stores
    | some value =>
      if allBlank value then askInOrder key (blank <|> some value) stores
      else
        modify (·.debug ("Configuration '" ++ key ++ "' set by " ++ store.name ++ " store"))
        return some value

/-- Several stores as one; an earlier one goes before a later one. -/
def layered (stores : List (Store σ)) : Store σ where
  name := "layered"
  ask key := askInOrder key none stores

end Store

end SignedUpgrade
