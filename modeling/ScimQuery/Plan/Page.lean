import ScimQuery.Config.Settings

/-! # Pages

A request asks for the page that starts at a 1-based index and holds a number of rows.
The window it gets starts at the index, raised to 1, and skips one row fewer than that;
it holds the requested number of rows, or the default page size when none is asked for,
raised to 0 and cut down to the largest page. The default page size is an unsigned word
read as a signed one, so that a size of `2^63` or more counts as negative and gives an
empty page.
-/

namespace ScimQuery

/-- The paging part of a request: a 1-based start and an optional size, both signed
64-bit words. -/
structure PageRequest where
  startIndex : Int := 1
  count : Option Int := none
deriving Repr, DecidableEq, Inhabited

/-- A window of rows: its 1-based start, the rows skipped and the rows taken. -/
structure Page where
  startIndex : Nat
  offset : Nat
  limit : Nat
deriving Repr, DecidableEq, Inhabited

/-- An unsigned 64-bit word read as a signed one. -/
def signedWord (n : Nat) : Int := Int.bmod n (Nat.pow 2 64)

/-- The window of a request under the settings' page sizes. -/
def PageRequest.resolve (p : PageRequest) (s : QuerySettings) : Page :=
  let startIndex := (max p.startIndex 1).toNat
  let requested := (max (p.count.getD (signedWord s.defaultCount)) 0).toNat
  { startIndex, offset := startIndex - 1, limit := min requested s.maxResults }

theorem resolve_startIndex (p : PageRequest) (s : QuerySettings) :
    (p.resolve s).startIndex = (max p.startIndex 1).toNat := rfl

theorem resolve_limit (p : PageRequest) (s : QuerySettings) :
    (p.resolve s).limit = min (max (p.count.getD (signedWord s.defaultCount)) 0).toNat s.maxResults :=
  rfl

theorem resolve_offset_add_one (p : PageRequest) (s : QuerySettings) :
    (p.resolve s).offset + 1 = (p.resolve s).startIndex := by
  simp only [PageRequest.resolve]
  omega

theorem resolve_limit_le (p : PageRequest) (s : QuerySettings) :
    (p.resolve s).limit ≤ s.maxResults := by
  simp only [PageRequest.resolve]
  omega

end ScimQuery
