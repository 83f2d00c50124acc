import CosmosRl.Dispatcher.TrainAck

/-!
What the handlers do to the rollout replicas.

A registration, a departure and a weight sync are made of a few parts: they write the record
of the rollout manager, rebuild its mesh and send weights to rollout replicas.  A relation
of the states around each of these parts is one of the states around the handlers.
-/

namespace CosmosRl.Dispatcher

open CosmosRl.Foundation

structure RespectsRolloutParts (Related : Controller → Controller → Prop) : Prop where
  refl : ∀ controller, Related controller controller
  trans : ∀ {first second third}, Related first second → Related second third →
    Related first third
  managed : ∀ controller rollout, Related controller { controller with rollout := rollout }
  rebuilt : ∀ controller, Related controller (triggerRebuildRolloutMesh controller)
  unicast : ∀ srcReplica dstReplica weightStep totalSteps controller,
    Related controller
      (policyToRolloutUnicastTrigger srcReplica dstReplica weightStep totalSteps controller)
  broadcast : ∀ srcReplica dstReplicas weightStep totalSteps controller,
    Related controller
      (rolloutToRolloutBroadcastTrigger srcReplica dstReplicas weightStep totalSteps controller)

namespace RespectsRolloutParts

variable {Related : Controller → Controller → Prop}

section

variable (respects : RespectsRolloutParts Related)

include respects

theorem sendWeights (name : ReplicaName) (controller : Controller) :
    Related controller (sendWeightsToFirstRollout name controller) := by
  unfold sendWeightsToFirstRollout
  split
  · exact respects.refl controller
  · split
    · exact respects.unicast _ _ _ _ _
    · exact respects.refl controller

theorem broadcastToInitial (controller : Controller) :
    Related controller (broadcastToInitialRollouts controller) := by
  unfold broadcastToInitialRollouts
  split
  · exact respects.refl controller
  · exact respects.broadcast _ _ _ _ _

theorem postRegisterHook (name : ReplicaName) (controller : Controller) :
    Related controller (rolloutPostRegisterHook name controller).state := by
  have sent := respects.sendWeights name controller
  unfold rolloutPostRegisterHook
  dsimp only
  split
  · rw [Outcome.ok_state]
    apply respects.trans _ (respects.broadcastToInitial _)
    apply respects.trans _ (respects.rebuilt _)
    exact respects.trans sent (respects.managed _ _)
  · split
    · split
      · exact sent
      · exact sent
    · exact respects.trans sent (respects.rebuilt _)

theorem registerRollout (atom : Atom) (now : Nat) (controller : Controller) :
    Related controller (registerRollout atom now controller).state := by
  have stored : ∀ replica, Related controller
      (storeRolloutReplica atom.replicaName replica controller) := fun replica =>
    respects.managed controller _
  unfold Dispatcher.registerRollout
  split
  · exact respects.refl controller
  · split
    · exact respects.trans (stored _) (respects.postRegisterHook _ _)
    · exact stored _

theorem unregisterRollout (name : ReplicaName) (controller : Controller) :
    Related controller (unregisterRollout name controller).state := by
  have removed : Related controller { controller with
      rollout.rolloutReplicas := controller.rollout.rolloutReplicas.erase name
      rollout.replicaScalingLog := controller.rollout.replicaScalingLog ++ [name] } :=
    respects.managed controller _
  unfold Dispatcher.unregisterRollout
  split
  · exact respects.refl controller
  · dsimp only
    split
    · exact removed
    · split
      · exact respects.trans removed (respects.rebuilt _)
      · exact removed

theorem weightSync (policyReplica : ReplicaName)
    (currentStep : Nat) (totalSteps : Int) (controller : Controller) :
    Related controller
      (triggerWeightSync policyReplica currentStep totalSteps controller) := by
  unfold triggerWeightSync
  split
  · exact respects.refl controller
  · exact respects.trans (respects.unicast _ _ _ _ _) (respects.broadcast _ _ _ _ _)

/-- The first policy replica that arrives sends its weights, once it is marked and resumed. -/
theorem initializeWeights {name : ReplicaName} {controller : Controller}
    (marked : Related controller { controller with policy.firstPolicyReplicaArrived := true })
    (resumed : ∀ state, Related state (weightResumeTrigger name state)) :
    Related controller (initializeWeights name controller).state := by
  have started := respects.trans marked (resumed _)
  unfold Dispatcher.initializeWeights
  split
  · exact respects.refl controller
  · dsimp only
    split
    · exact started
    · split
      · rw [Outcome.ok_state]
        apply respects.trans _ (respects.broadcast _ _ _ _ _)
        exact respects.trans started (respects.unicast _ _ _ _ _)
      · exact respects.trans started (respects.unicast _ _ _ _ _)

end

theorem syncedWeights {config : Config} (respects : RespectsRolloutParts Related) (step : Nat)
    (totalSteps : Int) (controller : Controller) :
    Related controller (syncedWeights config step totalSteps controller) := by
  unfold Dispatcher.syncedWeights
  split
  · exact respects.refl controller
  · split
    · exact respects.weightSync _ _ _ _
    · exact respects.refl controller

end RespectsRolloutParts

end CosmosRl.Dispatcher
