import Crosslink.Proofs.Session.Fate

/-!
# Resolving a link in place

A link may be changed where it stands, step by step, while it is resolved: an unresolved link is
made plain text before its issue is reported, also if the issue ends the build. This comes to what
resolution decides about the link as a whole.
-/

namespace Crosslink.Session

/-- A link whose outcome is decided is reported if it is refused. -/
theorem perform_resolveTarget {policy : Policy} {target : Target} {file : Path} {s : Session}
    {l : Link} {o : Outcome} (h : Resolution.ofTarget policy s.registry target file l = .ok o) :
    s.perform (resolveTarget policy target file l) =
      match o.issue? with
      | some i => ((s.perform (report policy.strict i)).1.map fun _ => o,
          (s.perform (report policy.strict i)).2)
      | none => (.ok o, s) := by
  rw [resolveTarget]
  simp only [perform_bind, perform_get, perform_require, h]
  cases o with
  | refused l' i => cases policy.strict <;> rfl
  | _ => rfl

/-- A change of a session and of one link that gives a value or fails. -/
abbrev LinkAction (α : Type) := ExceptT Failure (StateM (Session × Link)) α

namespace LinkAction

/-- Perform an action on a session and a link. -/
def perform {α : Type} (x : Session × Link) (action : LinkAction α) :
    Except Failure α × Session × Link :=
  (ExceptT.run action).run x

/-- An action on the session alone. -/
def onSession {α : Type} (action : Action α) : LinkAction α := fun (s, l) =>
  let (outcome, s) := s.perform action
  (outcome, s, l)

/-- Change the link. -/
def change (f : Link → Link) : LinkAction Unit := modify fun (s, l) => (s, f l)

/-- Make the link plain text, and report why. -/
def refuse (policy : Policy) (kind : IssueKind) (message : String) (sourceFile : Path) :
    LinkAction Bool := do
  change fun l => { l with inert := true }
  let (_, l) ← get
  onSession (report policy.strict {
    kind, message, sourceFile
    line := l.origin.line
    column := l.origin.column
    target := some l.origin.url
    relatedFile := none })
  return false

/-- Resolve a link with a given target; the answer is whether it was rewritten. -/
def resolve (policy : Policy) (target : Target) (sourceFile : Path) : LinkAction Bool :=
  match target with
  | .plain _ => return false
  | .repository path =>
    if path.isNone && policy.repoLinkRequiresPath then
      refuse policy .missingRepoPath "Repository link has no path (expected repo:<path>)" sourceFile
    else do
      change fun l => { l with url := policy.urlFor path }
      return true
  | .reference identifier anchor => do
    let (s, _) ← get
    match ← onSession (require (s.registry.lookup identifier)) with
    | none =>
      refuse policy .missingReference
        ("No document declares globalReference " ++ Text.quoted identifier) sourceFile
    | some r =>
      if r.sourceFile = sourceFile then
        refuse policy .selfReference ("Document links to itself through ref:" ++ identifier)
          sourceFile
      else
        change fun l => { l with url := Resolution.withAnchor r.canonicalPath anchor }
        change fun l => { l with title := Resolution.adoptTitle l.title r.title }
        return true

variable {α β : Type}

theorem perform_bind (x : Session × Link) (a : LinkAction α) (f : α → LinkAction β) :
    perform x (a >>= f) = match perform x a with
      | (.ok v, y) => perform y (f v)
      | (.error e, y) => (.error e, y) := by
  rw [perform, run_bind, perform]
  rcases StateT.run (ExceptT.run a) x with ⟨e | v, y⟩ <;> rfl

@[simp] theorem perform_pure (x : Session × Link) (a : α) : perform x (pure a) = (.ok a, x) := rfl

@[simp] theorem perform_get (x : Session × Link) :
    perform x (get : LinkAction (Session × Link)) = (.ok x, x) := rfl

@[simp] theorem perform_change (s : Session) (l : Link) (f : Link → Link) :
    perform (s, l) (change f) = (.ok (), s, f l) := rfl

@[simp] theorem perform_onSession (s : Session) (l : Link) (action : Action α) :
    perform (s, l) (onSession action) =
      ((s.perform action).1, (s.perform action).2, l) := rfl

/-- A link is refused in place as it is refused as a whole, and its issue is reported. -/
theorem perform_refuse (policy : Policy) (kind : IssueKind) (message : String) (file : Path)
    (s : Session) (l : Link) :
    perform (s, l) (refuse policy kind message file) =
      match Resolution.refuse kind message file l with
      | .refused l' i =>
        ((s.perform (report policy.strict i)).1.map fun _ => false,
          (s.perform (report policy.strict i)).2, l')
      | _ => (.ok false, s, l) := by
  simp only [refuse, Resolution.refuse, perform_bind, perform_get, perform_change,
    perform_onSession]
  cases policy.strict <;> rfl

/-- Resolving a link in place comes to the same as resolving it as a whole. The link is as it has
become also where its issue ends the build, and as it was where nothing can be resolved yet. -/
theorem perform_resolve (policy : Policy) (target : Target) (file : Path) (s : Session)
    (l : Link) :
    perform (s, l) (resolve policy target file) =
      ((s.perform (resolveTarget policy target file l)).1.map Outcome.isRewritten,
        (s.perform (resolveTarget policy target file l)).2,
        ((Resolution.ofTarget policy s.registry target file l).toOption.map
          (·.link l)).getD l) := by
  -- where the link is refused, both report its issue and nothing else
  have hrefuse : ∀ kind message, Resolution.ofTarget policy s.registry target file l =
      .ok (Resolution.refuse kind message file l) →
      perform (s, l) (refuse policy kind message file) =
        ((s.perform (resolveTarget policy target file l)).1.map Outcome.isRewritten,
          (s.perform (resolveTarget policy target file l)).2,
          ((Resolution.ofTarget policy s.registry target file l).toOption.map
            (·.link l)).getD l) := by
    intro kind message h
    rw [perform_refuse, perform_resolveTarget h, h]
    cases hs : policy.strict <;> rfl
  cases target with
  | plain _ => rfl
  | repository path =>
    rw [resolve]
    by_cases hpath : (path.isNone && policy.repoLinkRequiresPath) = true
    · rw [if_pos hpath]
      exact hrefuse _ _ (by rw [Resolution.ofTarget, Resolution.ofRepository, if_pos hpath])
    · have h : Resolution.ofTarget policy s.registry (.repository path) file l =
          .ok (.rewritten { l with url := policy.urlFor path }) := by
        rw [Resolution.ofTarget, Resolution.ofRepository, if_neg hpath]
      rw [if_neg hpath, perform_resolveTarget h, h]
      rfl
  | reference identifier anchor =>
    rw [resolve]
    simp only [perform_bind, perform_get, perform_onSession, perform_require]
    cases hx : s.registry.lookup identifier with
    | error e =>
      rw [resolveTarget]
      simp only [Session.perform_bind, Session.perform_get, perform_require, Resolution.ofTarget,
        hx]
      rfl
    | ok record =>
      have htarget : Resolution.ofTarget policy s.registry (.reference identifier anchor) file l =
          .ok (Resolution.ofRecord record identifier anchor file l) := by
        rw [Resolution.ofTarget, hx]
        rfl
      cases record with
      | none => exact hrefuse _ _ htarget
      | some r =>
        simp only [Except.mapError]
        by_cases hself : r.sourceFile = file
        · rw [if_pos hself]
          exact hrefuse _ _ (by rw [htarget, Resolution.ofRecord, if_pos hself])
        · rw [Resolution.ofRecord, if_neg hself] at htarget
          rw [if_neg hself, perform_resolveTarget htarget, htarget]
          rfl

end LinkAction

end Crosslink.Session
