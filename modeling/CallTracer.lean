import CallTracer.Comparison
import CallTracer.Main
import CallTracer.Proofs.Consistency
import CallTracer.Proofs.Wrapping
import CallTracer.Proofs.FunctionList
import CallTracer.Proofs.HeaderLines
import CallTracer.Proofs.Noninterference
import CallTracer.Proofs.GenerationSuccess
import CallTracer.Proofs.Restriction
import CallTracer.Proofs.LineOrder
import CallTracer.Proofs.Warnings
import CallTracer.Proofs.Announcement
import CallTracer.Proofs.StubScope
import CallTracer.Proofs.Layout
import CallTracer.Proofs.FileWriting
import CallTracer.Proofs.Saving
import CallTracer.Proofs.Containment
import CallTracer.Proofs.JsonGrammar
import CallTracer.Proofs.JsonSkipping
import CallTracer.Proofs.ConfigFile
import CallTracer.Proofs.ConfigPrinting
import CallTracer.Proofs.ConfigLayers
import CallTracer.Proofs.HeaderFaults
import CallTracer.Proofs.DeclarationFaults
import CallTracer.Proofs.UnknownTypes
import CallTracer.Proofs.TypeLookup
import CallTracer.Proofs.FunctionListFaults
import CallTracer.Proofs.MarkerAgreement
import CallTracer.Proofs.DeclaredNames
import CallTracer.Proofs.NearestSpellings
import CallTracer.Proofs.FailureChain
import CallTracer.Proofs.TextComparison
import CallTracer.Proofs.InputFiles
import CallTracer.Proofs.FieldLines
import CallTracer.Proofs.RegistryInserts
import CallTracer.Proofs.TypeSpelling
