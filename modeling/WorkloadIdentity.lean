import WorkloadIdentity.Json.Record
import WorkloadIdentity.Http.Status
import WorkloadIdentity.Http.Headers
import WorkloadIdentity.Http.Form
import WorkloadIdentity.Http.Exchange
import WorkloadIdentity.FileSystem
import WorkloadIdentity.Time.Rfc3339
import WorkloadIdentity.Error.Config
import WorkloadIdentity.Token.Callers
import WorkloadIdentity.Subject.Source
import WorkloadIdentity.Credentials.Session
import WorkloadIdentity.Proofs.Cache.History
import WorkloadIdentity.Proofs.Cache.Linearization
import WorkloadIdentity.Proofs.Cache.Installed
import WorkloadIdentity.Proofs.Request.Attempt
import WorkloadIdentity.Proofs.Request.Retry
import WorkloadIdentity.Proofs.Request.Renewal
import WorkloadIdentity.Proofs.Cache.Fetches
import WorkloadIdentity.Proofs.Cache.SingleFlight
import WorkloadIdentity.Proofs.Cache.Notices
import WorkloadIdentity.Proofs.Cache.Provenance
import WorkloadIdentity.Proofs.Http.FormRoundTrip
import WorkloadIdentity.Proofs.Credentials.Terms
import WorkloadIdentity.Proofs.Json.TextRoundTrip
import WorkloadIdentity.Proofs.Credentials.Posts
import WorkloadIdentity.Proofs.Credentials.Journey
import WorkloadIdentity.Proofs.Sts.Posted
import WorkloadIdentity.Proofs.Json.Format
import WorkloadIdentity.Proofs.Error.Agreement
import WorkloadIdentity.Proofs.Log.Secrecy
import WorkloadIdentity.Proofs.Subject.Contents
import WorkloadIdentity.Proofs.Credentials.Exchanges
import WorkloadIdentity.Proofs.Project.FoundOnce
import WorkloadIdentity.Proofs.Document.Refusals
import WorkloadIdentity.Proofs.Project.Number
import WorkloadIdentity.Proofs.Error.Classification
import WorkloadIdentity.Proofs.Subject.Emptiness
import WorkloadIdentity.Proofs.Credentials.Counterpart
import WorkloadIdentity.Proofs.Credentials.Lifetimes
import WorkloadIdentity.Proofs.Error.Listings
import WorkloadIdentity.Proofs.Request.Additions
import WorkloadIdentity.Proofs.Subject.UrlHeaders
import WorkloadIdentity.Proofs.Project.Address
