import UriRouting.Config.Basic

/-!
# Loading a configuration into a builder

`Builder.load` checks a configuration and then registers its routes, in order, and its aliases.
Each route's handler is asked for by its name just before the route is registered; a name that
nobody supplies ends the loading, and so does a refused route or alias.  The names that were asked
for are part of the outcome.

Whoever supplies the handlers may go by what was asked for before: a `Supplier` is told of it.
`Builder.ofConfig` is for suppliers that do not.
-/

namespace UriRouting

/-- The handler for a name, if there is one, after some other names have been asked for. -/
abbrev Supplier (H : Type) := List String → String → Option H

/-- What comes of loading a configuration: the names of the handlers that were asked for, in order,
and the builder or the first refusal. -/
structure Loading (H : Type) where
  asked : List String
  events : List Event
  outcome : Except RouteError (Builder H)

namespace Loading

variable {H : Type}

/-- Register the routes of a configuration. -/
def addRoutes (supply : Supplier H) (asked : List String) (events : List Event)
    (b : Builder H) : List RouteEntry → Loading H
  | [] => ⟨asked, events, .ok b⟩
  | r :: rest =>
    match supply asked r.handler with
    | none => ⟨asked ++ [r.handler], events, .error (.unknownHandler r.handler)⟩
    | some handler =>
      let added := b.addRoute (.make r.methods r.path r.style handler)
      match added.refusal with
      | some e => ⟨asked ++ [r.handler], events ++ added.events, .error e⟩
      | none =>
        addRoutes supply (asked ++ [r.handler]) (events ++ added.events) added.builder rest

/-- Register the aliases of a configuration. -/
def addAliases (l : Loading H) (b : Builder H) : List AliasEntry → Loading H
  | [] => { l with outcome := .ok b }
  | a :: rest =>
    let added := b.addAlias a.front a.target
    match added.refusal with
    | some e => { l with events := l.events ++ added.events, outcome := .error e }
    | none => addAliases { l with events := l.events ++ added.events } added.builder rest

end Loading

/-- Check a configuration and register what it lists. -/
def Builder.load {H : Type} (c : Config) (supply : Supplier H) : Loading H :=
  match c.validate with
  | .error e => ⟨[], [], .error e⟩
  | .ok _ =>
    let routed := Loading.addRoutes supply [] [] (.withOptions c.options) c.routes
    match routed.outcome with
    | .error _ => routed
    | .ok b => routed.addAliases b c.aliases

/-- Check a configuration and register what it lists, with handlers that go by their names alone. -/
def Builder.ofConfig {H : Type} (c : Config) (supply : String → Option H) : Loading H :=
  Builder.load c fun _ => supply

end UriRouting
