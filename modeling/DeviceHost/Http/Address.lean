/-!
# Web addresses

An address is a path, possibly after a scheme and a host, and possibly before a query. A path is a
list of segments, each of which is encoded by itself.

A client resolves the segments `.` and `..` before it sends a path: the first one stands for the
place itself, the second one for the place above it.
-/

namespace DeviceHost.Http

/-- The characters of an address after its scheme and host, if it has any. -/
def afterHost (cs : List Char) : List Char :=
  let scheme := cs.takeWhile fun c => c != ':' && c != '/'
  match cs.drop scheme.length with
  | ':' :: '/' :: '/' :: r => r.dropWhile fun c => c != '/' && c != '?' && c != '#'
  | _ => cs

/-- The characters of the path of an address, without its query. -/
def pathOf (address : String) : List Char :=
  (afterHost address.toList).takeWhile fun c => c != '?' && c != '#'

/-- The segments of the path of an address, still encoded. -/
def segments (address : String) : List String :=
  match (String.ofList (pathOf address)).splitOn "/" with
  | "" :: r => r
  | _ => []

/-- Take the segments of a path one by one, given those before them, last one first. -/
def resolveFrom : List String → List String → List String
  | found, [] => found.reverse
  | found, [s] =>
    if s = "." then ("" :: found).reverse
    else if s = ".." then ("" :: found.tail).reverse
    else (s :: found).reverse
  | found, s :: r =>
    if s = "." then resolveFrom found r
    else if s = ".." then resolveFrom found.tail r
    else resolveFrom (s :: found) r

/-- The path that a client sends for an address. -/
def resolvedPath (address : String) : String :=
  "/" ++ "/".intercalate (resolveFrom [] (segments address))

end DeviceHost.Http
