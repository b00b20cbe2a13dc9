import EntityPlan.Main
import EntityPlan.Proofs.Atomicity
import EntityPlan.Proofs.Distinctness
import EntityPlan.Proofs.Grouping
import EntityPlan.Proofs.Refusal
import EntityPlan.Proofs.Confinement
import EntityPlan.Proofs.Relationships
import EntityPlan.Proofs.Reading
import EntityPlan.Proofs.Splitting
import EntityPlan.Proofs.Inspection
import EntityPlan.Proofs.Prediction
import EntityPlan.Proofs.Rearrangement
import EntityPlan.Proofs.Strictness
import EntityPlan.Proofs.Relevance
import EntityPlan.Proofs.Typing
import EntityPlan.Proofs.Collecting
import EntityPlan.Proofs.Canonical
import EntityPlan.Proofs.Formation
import EntityPlan.Proofs.Faithfulness
import EntityPlan.Proofs.Scoping
import EntityPlan.Proofs.Correspondence
import EntityPlan.Proofs.Imports
import EntityPlan.Proofs.Insertion
import EntityPlan.Proofs.Decoding
import EntityPlan.Proofs.Delivery
import EntityPlan.Proofs.Admission
import EntityPlan.Proofs.Casing
import EntityPlan.Proofs.WordForms
import EntityPlan.Proofs.PropertyNames
import EntityPlan.Proofs.RegularNames
import EntityPlan.Proofs.TableNames
import EntityPlan.Proofs.SourceDirectories
import EntityPlan.Proofs.Contexts
import EntityPlan.Proofs.TableHistories
import EntityPlan.Proofs.Alignment
import EntityPlan.Proofs.PackageNames
import EntityPlan.Proofs.Validity
import EntityPlan.Proofs.Listings
import EntityPlan.Proofs.Discovery
import EntityPlan.Proofs.LevelHistories
import EntityPlan.Proofs.Flattening
import EntityPlan.Proofs.OptionReadings
