import Imagewright.Service.ManifestForm
import Imagewright.Service.Reply

/-!
# Libraries of the service

What the service has other libraries for: they read the body of a request, and send the answer.

## Main definitions

* `Service.Library`: what they do.
* `Service.Library.Documented`: what is known about them.
-/
namespace Imagewright.Service

/-- What other libraries do for the service. -/
structure Library where
  readToml : Blueprint.TomlReader
  /-- Reads the body of a request for a manifest, if there is one. -/
  readForm : Option Value → Checked ManifestForm
  /-- The name of a key that is null, in an answer. -/
  nullName : String
  /-- A document as it is given in an answer. -/
  present : Value → Value
  /-- What is sent for an answer. -/
  send : Reply → Reply

/-- What is known about the libraries. -/
structure Library.Documented (l : Library) : Prop where
  /-- What cannot be read as TOML is malformed, and nothing else is wrong with it. -/
  readToml : ∀ content, l.readToml content ≠ .error .broken
  /-- An answer that has a form in JSON is sent as it is. -/
  send : ∀ r : Reply, r.Showable → l.send r = r

end Imagewright.Service
