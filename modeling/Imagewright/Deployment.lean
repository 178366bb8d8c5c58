import Imagewright.Packages.RepositoryStore
import Imagewright.Resolve.Depsolve
import Imagewright.Resolve.Direct
import Imagewright.Settings
import Imagewright.Text.Letters

/-!
# Deployments

How the parts of the program are put together: for development everything is in memory, and in
production packages and repositories come from where the settings say.

## Main definitions

* `Deployment`: the parts that are used.
* `Deployment.assemble`: the deployment for a profile and a file of settings.
-/
namespace Imagewright

/-- What the program is run for. -/
inductive Deployment.Profile where
  | development
  | production
deriving DecidableEq, Repr

inductive Deployment.Resolver where
  | direct
  | helper (d : Resolve.Depsolve)

/-- The store of repositories that is used. -/
inductive Deployment.Store where
  | memory
  | folder (path : String)
deriving DecidableEq, Repr

/-- The parts of the program as they are put together. -/
structure Deployment where
  profile : Deployment.Profile
  settings : Settings
  resolver : Deployment.Resolver
  store : Deployment.Store

namespace Deployment

/-- The profile of a name: production if the name says so, in any mix of cases. -/
def Profile.ofName (name : Option String) : Profile :=
  if Text.lower (name.getD "dev") == "prod" then .production else .development

def Resolver.ofSettings (s : Settings) : Resolver :=
  match s.backend with
  | .memory => .direct
  | .helper =>
    .helper {
      command := .str s.command
      cacheDir := .str s.cacheDir
      timeout := s.timeout.seconds.toValue }

/-- The deployment of a profile with its settings. -/
def ofSettings (profile : Profile) (settings : Settings) : Deployment :=
  match profile with
  | .development => { profile, settings, resolver := .direct, store := .memory }
  | .production =>
    { profile, settings, resolver := .ofSettings settings
      store := .folder settings.repositoriesDir }

def assemble (profile : Option String) (path : String) (content : Option String) :
    Except Ini.Error Deployment :=
  (Settings.loadOrDefault path content).map (ofSettings (.ofName profile))

end Deployment
end Imagewright
