import Imagewright.Text.Digits
import Imagewright.Text.Lines
import Imagewright.Text.Pieces
import Imagewright.Text.Utf8
import Imagewright.Text.Word

/-!
# Addresses

What the service offers, and where. An address is a path of segments between slashes, which the name
of a server may stand in front of. Dots for this directory and for the one above are resolved before
the percent signs are, which are resolved twice.

## Main definitions

* `Service.pathOf`: the path that an address denotes.
* `Service.Route`: what the service offers.
* `Service.Route.ofAddress?`: what is offered at an address.
-/
namespace Imagewright.Service

/-- The bytes of an address, with those that are given by a percent sign and two digits. -/
def percentBytes : List Char → List UInt8
  | [] => []
  | '%' :: a :: b :: rest =>
    match Text.hexValue? a, Text.hexValue? b with
    | some high, some low => UInt8.ofNat (high * 16 + low) :: percentBytes rest
    | _, _ => 0x25 :: percentBytes (a :: b :: rest)
  | c :: rest => String.utf8EncodeChar c ++ percentBytes rest

/-- The address without its query and its fragment. -/
def dropQuery (cs : List Char) : List Char := cs.takeWhile fun c => c != '?' && c != '#'

/-- One more segment behind those that are there, in reverse. A dot leaves them as they are, and two
dots take the last one away, but never the root. -/
def pushSegment (segments : List (List Char)) (s : List Char) : List (List Char) :=
  if s == ['.'] then segments
  else if s == ['.', '.'] then
    if segments == [[]] then segments else segments.tail
  else s :: segments

/-- An address without the segments that are dots. -/
def resolveDots (cs : List Char) : List Char :=
  List.intercalate ['/'] ((Text.pieces '/' cs).foldl pushSegment []).reverse

def fromRoot : List Char → List Char
  | '/' :: rest => '/' :: rest
  | cs => '/' :: cs

def isSchemeChar (c : Char) : Bool := Text.isAsciiAlnum c || c == '+' || c == '.' || c == '-'

/-- What follows the scheme of an address, if it has one. -/
def dropScheme (cs : List Char) : List Char :=
  let scheme := cs.takeWhile isSchemeChar
  match cs.drop scheme.length with
  | ':' :: rest => if scheme.head?.any Text.isAsciiLetter then rest else cs
  | _ => cs

/-- What follows the name of the server, if an address has one. -/
def dropServer : List Char → List Char
  | '/' :: '/' :: rest => rest.dropWhile (· != '/')
  | cs => cs

def resolvePercents (cs : List Char) : List Char := Text.Utf8.decode (percentBytes cs)

/-- The path that an address denotes. -/
def pathOf (address : List Char) : List Char :=
  let path := fromRoot (dropServer (dropScheme (dropQuery address)))
  resolvePercents (resolvePercents (resolveDots path))

inductive Route where
  | health
  | distributions
  | architectures (distribution : String)
  | imageTypes (distribution architecture : String)
  | manifests
  /-- Pages that describe the service. What they show is not told here. -/
  | guide
deriving DecidableEq, Repr

namespace Route

def methods : Route → List String
  | .manifests => ["POST"]
  | .guide => ["GET", "HEAD"]
  | _ => ["GET"]

/-- The route of the segments of a path. Names are not empty. -/
def ofSegments? : List String → Option Route
  | ["", "health"] => some .health
  | ["", "api", "v1", "distributions"] => some .distributions
  | ["", "api", "v1", "distributions", distribution, "architectures"] =>
    if distribution == "" then none else some (.architectures distribution)
  | ["", "api", "v1", "distributions", distribution, "architectures", architecture,
      "image-types"] =>
    if distribution == "" || architecture == "" then none
    else some (.imageTypes distribution architecture)
  | ["", "api", "v1", "manifests"] => some .manifests
  | ["", "docs"] | ["", "docs", "oauth2-redirect"] | ["", "redoc"] | ["", "openapi.json"] =>
    some .guide
  | _ => none

/-- The route of a path. One line feed may follow. -/
def ofPath? (path : List Char) : Option Route :=
  ofSegments? ((Text.pieces '/' (Text.dropLineFeed path)).map String.ofList)

/-- A path without the slashes at its end. -/
def dropSlashes (path : List Char) : List Char := (path.reverse.dropWhile (· == '/')).reverse

/-- The route of an address. Where there is none, slashes at the end of its path do not count: if
there is a route without them, the path without them is asked for as an address. This is done at
most `fuel` times. -/
def follow? : (fuel : Nat) → (address : List Char) → Option Route
  | 0, _ => none
  | fuel + 1, address =>
    let path := pathOf address
    (ofPath? path).orElse fun _ =>
      let shorter := dropSlashes path
      if shorter != path && (ofPath? shorter).isSome then follow? fuel shorter else none

/-- An address is followed this often. -/
def maxFollows : Nat := 20

def ofAddress? (address : String) : Option Route := follow? maxFollows address.toList

end Route
end Imagewright.Service
