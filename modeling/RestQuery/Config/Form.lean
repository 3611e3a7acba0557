import RestQuery.Config.Basic
import RestQuery.Json.Decode

/-!
# The JSON form of configurations

A configuration, and each part of it, is written as an object with all its fields. What is missing
when it is read takes the default, except in page information, where it is unknown.
-/

namespace RestQuery

open Json (Decoder)

namespace Page

/-- The names of page headers in JSON. -/
def HeaderNames.toJson (h : HeaderNames) : Json :=
  .ofMembers [("total_count", .text h.totalCount), ("page_count", .text h.pageCount),
    ("current_page", .text h.currentPage), ("per_page", .text h.perPage)]

/-- The names of page headers from JSON. -/
def HeaderNames.decoder : Decoder HeaderNames :=
  Decoder.record "HeaderNames" {}
    [.of "total_count" Decoder.text fun h v => { h with totalCount := v },
     .of "page_count" Decoder.text fun h v => { h with pageCount := v },
     .of "current_page" Decoder.text fun h v => { h with currentPage := v },
     .of "per_page" Decoder.text fun h v => { h with perPage := v }]

/-- Page information from JSON. -/
def Info.decoder : Decoder Info :=
  let count := Decoder.optional Decoder.word64
  Decoder.record "Info" {}
    [.of "per_page" count fun p v => { p with perPage := v },
     .of "current_page" count fun p v => { p with currentPage := v },
     .of "page_count" count fun p v => { p with pageCount := v },
     .of "total_count" count fun p v => { p with totalCount := v }] false

end Page

namespace Retry

/-- A policy in JSON. -/
def Policy.toJson (p : Policy) : Json :=
  .ofMembers [("enabled", .bool p.enabled), ("max_retries", .nat p.maxRetries),
    ("max_total_wait_ms", .nat p.maxTotalWait), ("base_interval_ms", .nat p.baseInterval),
    ("multiplier", .nat p.multiplier)]

/-- A policy from JSON. -/
def Policy.decoder : Decoder Policy :=
  Decoder.record "Policy" {}
    [.of "enabled" Decoder.bool fun p v => { p with enabled := v },
     .of "max_retries" Decoder.word32 fun p v => { p with maxRetries := v },
     .of "max_total_wait_ms" Decoder.word64 fun p v => { p with maxTotalWait := v },
     .of "base_interval_ms" Decoder.word64 fun p v => { p with baseInterval := v },
     .of "multiplier" Decoder.word32 fun p v => { p with multiplier := v }]

end Retry

namespace Config

/-- A configuration in JSON. -/
def toJson (c : Config) : Json :=
  .ofMembers [("base_url", .text c.baseUrl), ("default_per_page", .nat c.defaultPerPage),
    ("max_per_page", .nat c.maxPerPage), ("timeout_ms", .nat c.timeout),
    ("collection_envelope", .optionalText c.envelope), ("strict_attributes", .bool c.strict),
    ("pagination_headers", c.pageHeaders.toJson), ("retry", c.retry.toJson)]

/-- A configuration from JSON. -/
def decoder : Decoder Config :=
  Decoder.record "Config" {}
    [.of "base_url" Decoder.text fun c v => { c with baseUrl := v },
     .of "default_per_page" Decoder.word64 fun c v => { c with defaultPerPage := v },
     .of "max_per_page" Decoder.word64 fun c v => { c with maxPerPage := v },
     .of "timeout_ms" Decoder.word64 fun c v => { c with timeout := v },
     .of "collection_envelope" (Decoder.optional Decoder.text) fun c v => { c with envelope := v },
     .of "strict_attributes" Decoder.bool fun c v => { c with strict := v },
     .of "pagination_headers" Page.HeaderNames.decoder fun c v => { c with pageHeaders := v },
     .of "retry" Retry.Policy.decoder fun c v => { c with retry := v }]

end Config

end RestQuery
