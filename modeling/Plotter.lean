import Plotter.Main
import Plotter.Script
import Plotter.Proofs.Session.Answers
import Plotter.Proofs.Session.Supersession
import Plotter.Proofs.Session.Libraries
import Plotter.Proofs.Session.Traffic
import Plotter.Proofs.Session.Isolation
import Plotter.Proofs.Session.Bursts
import Plotter.Proofs.Session.Capability
import Plotter.Proofs.Session.Templates
import Plotter.Proofs.Template.Position
import Plotter.Proofs.Diagnostic.Streams
import Plotter.Proofs.Diagnostic.Locality
import Plotter.Proofs.Diagnostic.Cuts
import Plotter.Proofs.Diagnostic.Changes
import Plotter.Proofs.Request.Complaints
import Plotter.Proofs.Template.Extent
import Plotter.Proofs.Session.Aborts
import Plotter.Proofs.Session.Indifference
import Plotter.Proofs.Sampling.Coverage
import Plotter.Proofs.Session.Kinship
import Plotter.Proofs.CommandLine.Reports
import Plotter.Proofs.CommandLine.Agreement
import Plotter.Proofs.Session.Openings
import Plotter.Proofs.Naming.Decoding
import Plotter.Proofs.Session.Listing
import Plotter.Proofs.Diagnostic.Records
import Plotter.Proofs.Session.Sampling
import Plotter.Proofs.Template.Reckoning
