import Keyring.Page.Basic

namespace Keyring.PagePlan

/-- A page of the plan. -/
def row (index : UInt64) (s : Page.Span) : Json :=
  .record [
    ("end", .natural s.stop.toNat),
    ("has_more", .bool s.more),
    ("keys", .natural s.size.toNat),
    ("page", .natural index.toNat),
    ("start", .natural s.start.toNat)]

/-- The pages of the plan from an index on. -/
def rows (keys pageSize : UInt64) (b : Page.Boundary) (hs : pageSize ≠ 0) (index : UInt64) :
    List Json :=
  let s := Page.cut keys index pageSize b
  if h : s.more = true then row index s :: rows keys pageSize b hs (index + 1)
  else [row index s]
termination_by keys.toNat - index.toNat
decreasing_by exact Page.measure_lt hs h

/-- The plan for a number of keys, for a page size that is not zero. -/
def toJson (keys pageSize : UInt64) (b : Page.Boundary) (hs : pageSize ≠ 0) : Json :=
  .record [
    ("boundary", .text b.name),
    ("keys", .natural keys.toNat),
    ("page_size", .natural pageSize.toNat),
    ("pages", .array (rows keys pageSize b hs 0))]

end Keyring.PagePlan
