import AdmissionControl.ApiServer.Session
import AdmissionControl.Main
import AdmissionControl.Proofs.Cluster.Provenance
import AdmissionControl.Proofs.Cluster.Workspace
import AdmissionControl.Proofs.Cluster.AccessCheck
import AdmissionControl.Proofs.Project.Verdict
import AdmissionControl.Service.Answer
import AdmissionControl.Proofs.Quantity.Grammar
import AdmissionControl.Proofs.Quantity.Language
import AdmissionControl.Proofs.Limit.RoundTrip
import AdmissionControl.Proofs.Review.Outage
import AdmissionControl.Proofs.ApiServer.Requests
import AdmissionControl.Proofs.ApiServer.Refinement
import AdmissionControl.Proofs.Cluster.Update
import AdmissionControl.Proofs.Cluster.VersionManagement
import AdmissionControl.Proofs.Project.Resubmission
import AdmissionControl.Proofs.Text.Percent
import AdmissionControl.Proofs.Url.Folder
import AdmissionControl.Proofs.ApiServer.Names
import AdmissionControl.Proofs.Project.Spelling
import AdmissionControl.Proofs.Limit.Stored
import AdmissionControl.Proofs.ApiServer.Replies
import AdmissionControl.Proofs.Review.Dispatch
import AdmissionControl.Proofs.Session.Independence
import AdmissionControl.Proofs.Review.Branches
import AdmissionControl.Proofs.Review.Envelope
import AdmissionControl.Proofs.ApiServer.Traffic
import AdmissionControl.Proofs.Review.Group
import AdmissionControl.Proofs.Json.Written
import AdmissionControl.Proofs.Model.RoundTrip
import AdmissionControl.Proofs.Text.Encoding
import AdmissionControl.Proofs.Offline.Status
import AdmissionControl.Proofs.Offline.Agreement
import AdmissionControl.Proofs.Cluster.Unchanged
import AdmissionControl.Proofs.Review.Carrying
import AdmissionControl.Proofs.ApiServer.Retries
import AdmissionControl.Proofs.ApiServer.Steps
import AdmissionControl.Proofs.Cluster.Classification
import AdmissionControl.Proofs.Limit.Fitting
import AdmissionControl.Proofs.Project.Monotone
import AdmissionControl.Proofs.Quantity.Spelling
import AdmissionControl.Proofs.Rules.Course
import AdmissionControl.Proofs.Review.Logged
import AdmissionControl.Proofs.Service.Posted
import AdmissionControl.Proofs.ApiServer.AccessReview
import AdmissionControl.Proofs.Review.Rewriting
import AdmissionControl.Proofs.Review.Undecodable
