import PageRules.Boundary
import PageRules.Proofs.Extraction.Filled
import PageRules.Proofs.Extraction.Isolation
import PageRules.Proofs.Extraction.Keys
import PageRules.Proofs.Extraction.Overwriting
import PageRules.Proofs.Extraction.Slicing
import PageRules.Proofs.Extraction.Walk
import PageRules.Proofs.RuleText.CatchAll
import PageRules.Proofs.RuleText.Loss
import PageRules.Proofs.RuleText.HashLine
import PageRules.Proofs.RuleText.OpenGroup
import PageRules.Proofs.RuleText.Origin
import PageRules.Proofs.RuleText.Recovery
import PageRules.Proofs.RuleText.RoundTrip
import PageRules.Proofs.RuleText.Verbatim
import PageRules.Proofs.RuleText.WellFormed
import PageRules.Proofs.Scraping
import PageRules.Proofs.Hub.Candidate
import PageRules.Proofs.Hub.Search
import PageRules.Proofs.RuleText.Declaration
import PageRules.Proofs.Hub.Keeping
import PageRules.Proofs.Json.Clear
import PageRules.Proofs.Text.Bytes
import PageRules.Proofs.Boundary
import PageRules.Proofs.RuleText.Definition
import PageRules.Proofs.RuleText.Comment
import PageRules.Proofs.RuleText.Idempotence
import PageRules.Proofs.RuleText.PathHeader
import PageRules.Proofs.Site
import PageRules.Proofs.Glob.Places
import PageRules.Proofs.Glob.Read
import PageRules.Proofs.RuleText.Located
import PageRules.Proofs.Text.Octets
import PageRules.Proofs.RuleText.Octets
import PageRules.Proofs.RuleText.Nesting
import PageRules.Proofs.Scope
import PageRules.Proofs.RuleText.Spelling
import PageRules.Proofs.RuleText.Group
import PageRules.Proofs.Hub.WwwHost
import PageRules.Proofs.Hub.Address
import PageRules.Proofs.RequestPath
import PageRules.Proofs.Rule.Offer
import PageRules.Proofs.Transform
import PageRules.Proofs.Record.Tagged
import PageRules.Proofs.Pool
import PageRules.Proofs.RuleText.Gap
