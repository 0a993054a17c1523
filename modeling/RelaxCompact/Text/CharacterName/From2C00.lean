import RelaxCompact.Text.CharacterName.Block

/-!
The names of the characters from U+2C00 to U+FFFF.
-/

namespace RelaxCompact.CharacterName

/-- The names from U+2C00 to U+9FFF. -/
def from2C00 : List Block :=
  [⟨0x2C00, [
    "aGLAGOLITIC CAPITAL LETTER AZUdBUKYdVEDEdGLAGOLIdDOBROdYESTUdZHIVETEdDZELOdZEMLJAdIZHE",
    "dINITIALqdIdDJERVIdKAKOdLJUDIJEdMYSLITEdNASHIdONUdPOKOJIdRITSIdSLOVOdTVRIDOdUKUdFRITUdHERU",
    "dOTUdPEdSHTAdTSIdCHRIVIdSHAdYERUdYERIdYATIdSPIDERY HAdYUdSMALL YUSfWITH TAILdYO",
    "dIOTATED SMALL YUSdBIGqdIOTATEDrdFITAdIZHITSAdSHTAPICdTROKUTASTI AdLATINATE MYSLITE",
    "dCAUDATE CHRIVIbSMALL LETTER AZUdBUKYdVEDEdGLAGOLIdDOBROdYESTUdZHIVETEdDZELOdZEMLJAdIZHE",
    "dINITIALqdIdDJERVIdKAKOdLJUDIJEdMYSLITEdNASHIdONUdPOKOJIdRITSIdSLOVOdTVRIDOdUKUdFRITUdHERU",
    "dOTUdPEdSHTAdTSIdCHRIVIdSHAdYERUdYERIdYATIdSPIDERY HAdYUdSMALL YUSfWITH TAILdYO",
    "dIOTATED SMALL YUSdBIGqdIOTATEDrdFITAdIZHITSAdSHTAPICdTROKUTASTI AdLATINATE MYSLITE",
    "dCAUDATE CHRIVIaLATIN CAPITAL LETTER L WITH DOUBLE BARbSMALLu",
    "bCAPITAL LETTER L WITH MIDDLE TILDEdP WITH STROKEdR WITH TAILbSMALL LETTER A WITH STROKE",
    "dT WITH DIAGONALqbCAPITAL LETTER H WITH DESCENDERbSMALLtbCAPITAL LETTER KrbSMALLt",
    "bCAPITAL LETTER ZrbSMALLtbCAPITAL LETTER ALPHAdM WITH HOOKdTURNED AeALPHA",
    "bSMALL LETTER V WITH RIGHT HOOKbCAPITAL LETTER W WITHqbSMALLtdV WITH CURL",
    "bCAPITAL LETTER HALF HbSMALLsdTAILLESS PHIdE WITH NOTCHdTURNED R WITH TAIL",
    "dO WITH LOW RING INSIDEbLETTER SMALL CAPITAL TURNED EbSUBSCRIPT SMALL LETTER J",
    "aMODIFIER LETTER CAPITAL VaLATIN CAPITAL LETTER S WITH SWASH TAILdZs",
    "aCOPTIC CAPITAL LETTER ALFAbSMALLrbCAPITAL LETTER VIDAbSMALLrbCAPITAL LETTER GAMMAbSMALLr",
    "bCAPITAL LETTER DALDAbSMALLrbCAPITAL LETTER EIEbSMALLrbCAPITAL LETTER SOUbSMALLr",
    "bCAPITAL LETTER ZATAbSMALLrbCAPITAL LETTER HATEbSMALLrbCAPITAL LETTER THETHEbSMALLr",
    "bCAPITAL LETTER IAUDAbSMALLrbCAPITAL LETTER KAPAbSMALLrbCAPITAL LETTER LAULAbSMALLr",
    "bCAPITAL LETTER MIbSMALLrbCAPITAL LETTER NIbSMALLrbCAPITAL LETTER KSIbSMALLr",
    "bCAPITAL LETTER ObSMALLrbCAPITAL LETTER PIbSMALLrbCAPITAL LETTER RObSMALLr",
    "bCAPITAL LETTER SIMAbSMALLrbCAPITAL LETTER TAUbSMALLrbCAPITAL LETTER UAbSMALLr",
    "bCAPITAL LETTER FIbSMALLrbCAPITAL LETTER KHIbSMALLrbCAPITAL LETTER PSIbSMALLr",
    "bCAPITAL LETTER OOUbSMALLrbCAPITAL LETTER DIALECT-P ALEFbSMALLs",
    "bCAPITAL LETTER OLD COPTIC AINbSMALLtbCAPITAL LETTER CRYPTOGRAMMIC EIEbSMALLs",
    "bCAPITAL LETTER DIALECT-P KAPAbSMALLsbCAPITAL LETTER DIALECT-P NIbSMALLs",
    "bCAPITAL LETTER CRYPTOGRAMMICqbSMALLsbCAPITAL LETTER OLD COPTIC OOUbSMALLt",
    "bCAPITAL LETTER SAMPIbSMALLrbCAPITAL LETTER CROSSED SHEIbSMALLsbCAPITAL LETTER OLD COPTICq",
    "bSMALLtbCAPITAL LETTER OLD COPTIC ESHbSMALLtbCAPITAL LETTER AKHMIMIC KHEIbSMALLs",
    "bCAPITAL LETTER DIALECT-P HORIbSMALLsbCAPITAL LETTER OLD COPTICqbSMALLt",
    "bCAPITAL LETTER OLD COPTIC HAbSMALLtbCAPITAL LETTER L-SHAPEDqbSMALLs",
    "bCAPITAL LETTER OLD COPTIC HEIbSMALLtbCAPITAL LETTER OLD COPTIC HATbSMALLt",
    "bCAPITAL LETTER OLD COPTIC GANGIAbSMALLtbCAPITAL LETTER OLD COPTIC DJAbSMALLt",
    "bCAPITAL LETTER OLD COPTIC SHIMAbSMALLtbCAPITAL LETTER OLD NUBIANqbSMALLt",
    "bCAPITAL LETTER OLD NUBIAN NGIbSMALLtbCAPITAL LETTER OLD NUBIAN NYIbSMALLt",
    "bCAPITAL LETTER OLD NUBIAN WAUbSMALLtbSYMBOL KAIcMI ROcPIqcSTAUROScTAU ROcKHIqcSHIMA SIMA",
    "bCAPITAL LETTER CRYPTOGRAMMIC SHEIbSMALLsbCAPITAL LETTER CRYPTOGRAMMIC GANGIAbSMALLs",
    "bCOMBINING NI ABOVEcSPIRITUS ASPERdLENISbCAPITAL LETTER BOHAIRIC KHEIbSMALLs"]⟩,
    ⟨0x2CF9, [
    "aCOPTIC OLD NUBIAN FULL STOPdDIRECT QUESTION MARKdINDIRECTrdVERSE DIVIDERbFRACTION ONE HALF",
    "bFULL STOPbMORPHOLOGICAL DIVIDERaGEORGIAN SMALL LETTER ANdBANdGANdDONdENdVINdZENdTANdINdKAN",
    "dLASdMANdNARdONdPARdZHARdRAEdSANdTARdUNdPHARdKHARdGHANdQARdSHINdCHINdCANdJILdCILdCHARdXAN",
    "dJHANdHAEdHEdHIEdWEdHARdHOE"]⟩,
    ⟨0x2D27, ["aGEORGIAN SMALL LETTER YN"]⟩, ⟨0x2D2D, ["aGEORGIAN SMALL LETTER AEN"]⟩,
    ⟨0x2D30, [
    "aTIFINAGH LETTER YAcYABcYABHcYAGcYAGHHcBERBER ACADEMY YAJcqcYADcYADHcYADDcYADDHcYEYcYAFcYAK",
    "cTUAREGqcYAKHHcYAHcBERBER ACADEMYqcTUAREGqcYAHHcYAAcYAKHcTUAREGqcYAQcTUAREGqcYIcYAZH",
    "cAHAGGARqcTUAREGqcYALcYAMcYANcTUAREG YAGNdYANGcYAPcYUcYARcYARRcYAGHcTUAREGqcAYERqcYAScYASS",
    "cYASHcYATcYATHcYACHcYATTcYAVcYAWcYAYcYAZcTAWELLEMETqcYAZZcYEcYO"]⟩,
    ⟨0x2D6F, ["aTIFINAGH MODIFIER LETTER LABIALIZATION MARKbSEPARATORq"]⟩,
    ⟨0x2D7F, [
    "aTIFINAGH CONSONANT JOINERaETHIOPIC SYLLABLE LOAcMOAcROAcSOAcSHOAcBOAcTOAcCOAcNOAcNYOA",
    "cGLOTTAL OAcZOAcDOAcDDOAcJOAcTHOAcCHOAcPHOAcPOAcGGWAcGGWIcGGWEEcGGWE"]⟩,
    ⟨0x2DA0, ["aETHIOPIC SYLLABLE SSAcSSUcSSIcSSAAcSSEEcSSEcSSO"]⟩,
    ⟨0x2DA8, ["aETHIOPIC SYLLABLE CCAcCCUcCCIcCCAAcCCEEcCCEcCCO"]⟩,
    ⟨0x2DB0, ["aETHIOPIC SYLLABLE ZZAcZZUcZZIcZZAAcZZEEcZZEcZZO"]⟩,
    ⟨0x2DB8, ["aETHIOPIC SYLLABLE CCHAcCCHUcCCHIcCCHAAcCCHEEcCCHEcCCHO"]⟩,
    ⟨0x2DC0, ["aETHIOPIC SYLLABLE QYAcQYUcQYIcQYAAcQYEEcQYEcQYO"]⟩,
    ⟨0x2DC8, ["aETHIOPIC SYLLABLE KYAcKYUcKYIcKYAAcKYEEcKYEcKYO"]⟩,
    ⟨0x2DD0, ["aETHIOPIC SYLLABLE XYAcXYUcXYIcXYAAcXYEEcXYEcXYO"]⟩,
    ⟨0x2DD8, ["aETHIOPIC SYLLABLE GYAcGYUcGYIcGYAAcGYEEcGYEcGYO"]⟩,
    ⟨0x2DE0, [
    "aCOMBINING CYRILLIC LETTER BEdVEdGHEdDEdZHEdZEdKAdELdEMdENdOdPEdERdESdTEdHAdTSEdCHEdSHA",
    "dSHCHAdFITAdES-TEdAdIEdDJERVdMONOGRAPH UKdYATdYUdIOTIFIED AdLITTLE YUSdBIGqdIOTIFIEDr",
    "aRIGHT ANGLE SUBSTITUTION MARKERcDOTTEDraLEFT SUBSTITUTION BRACKETaRIGHTraLEFT DOTTEDr",
    "aRIGHTsaRAISED INTERPOLATION MARKERbDOTTEDraDOTTED TRANSPOSITIONq",
    "aLEFT TRANSPOSITION BRACKETaRIGHTraRAISED SQUAREaLEFT RAISED OMISSION BRACKETaRIGHTs",
    "aEDITORIAL CORONISaPARAGRAPHOSaFORKEDqaREVERSEDraHYPODIASTOLEaDOTTED OBELOS",
    "aDOWNWARDS ANCORAaUPWARDSqaDOTTED RIGHT-POINTING ANGLEaDOUBLE OBLIQUE HYPHEN",
    "aINVERTED INTERROBANGaPALM BRANCHaHYPHEN WITH DIAERESISaTILDE WITH RING ABOVE",
    "aLEFT LOW PARAPHRASE BRACKETaRIGHTsaTILDE WITH DOT ABOVEdBELOWaLEFT VERTICAL BAR WITH QUILL",
    "aRIGHTtaTOP LEFT HALF BRACKETbRIGHTraBOTTOM LEFTrbRIGHTraLEFT SIDEWAYS UqaRIGHTs",
    "aLEFT DOUBLE PARENTHESISaRIGHTraTWO DOTS OVER ONE DOT PUNCTUATIONaONE DOT OVER TWO DOTSq",
    "aSQUARED FOUR DOTqaFIVE DOT MARKaREVERSED QUESTIONqaVERTICAL TILDEaRING POINT",
    "aWORD SEPARATOR MIDDLE DOTaTURNED COMMAaRAISED DOTbCOMMAaTURNED SEMICOLON",
    "aDAGGER WITH LEFT GUARDcRIGHTqaTURNED DAGGERaTOP HALF SECTION SIGNaTWO-EM DASHaTHREE-EMq",
    "aSTENOGRAPHIC FULL STOPaVERTICAL SIX DOTSaWIGGLY VERTICAL LINEaCAPITULUMaDOUBLE HYPHEN",
    "aREVERSED COMMAaDOUBLE LOW-REVERSED-9 QUOTATION MARKaDASH WITH LEFT UPTURN",
    "aDOUBLE SUSPENSION MARKaINVERTED LOW KAVYKAdWITH KAVYKA ABOVEaLOW KAVYKAcWITH DOT",
    "aDOUBLE STACKED COMMAaDOTTED SOLIDUSaTRIPLE DAGGERaMEDIEVAL COMMAaPARAGRAPHUS MARK",
    "aPUNCTUS ELEVATUSqaCORNISH VERSE DIVIDERaCROSS PATTY WITH RIGHT CROSSBARdLEFTq",
    "aTIRONIAN SIGN CAPITAL ETaMEDIEVAL EXCLAMATION MARKbQUESTIONq",
    "aLEFT SQUARE BRACKET WITH STROKEaRIGHTtaLEFT SQUARE BRACKET WITH DOUBLEqaRIGHTu",
    "aTOP HALF LEFT PARENTHESIScRIGHTqaBOTTOM HALF LEFTqcRIGHTqaOBLIQUE HYPHEN"]⟩,
    ⟨0x2E80, [
    "aCJK RADICAL REPEATcCLIFFcSECOND ONEdTWOdTHREEcPERSONcBOXcTABLEcKNIFE ONEdTWOcDIVINATION",
    "cSEALcSMALL ONEdTWOcLAME ONEdTWOdTHREEdFOURcSNAKEcTHREADcSNOUT ONEdTWOcHEART ONEdTWOcHAND",
    "cRAP"]⟩,
    ⟨0x2E9B, [
    "aCJK RADICAL CHOKEcSUNcMOONcDEATHcMOTHERcCIVILIANcWATER ONEdTWOcFIREcPAW ONEdTWO",
    "cSIMPLIFIED HALF TREE TRUNKcCOWcDOGcJADEcBOLT OF CLOTHcEYEcSPIRIT ONEdTWOcBAMBOOcSILK",
    "cC-SIMPLIFIEDqcNET ONEdTWOdTHREEdFOURcMESHcSHEEPcRAMcEWEcOLDcBRUSH ONEdTWOcMEATcMORTAR",
    "cGRASS ONEdTWOdTHREEcTIGERcCLOTHEScWEST ONEdTWOcC-SIMPLIFIED SEEcSIMPLIFIED HORNcq",
    "cC-SIMPLIFIED SPEECHdSHELLcFOOTcC-SIMPLIFIED CARTcSIMPLIFIED WALKcWALK ONEdTWOcCITY",
    "cC-SIMPLIFIED GOLDcLONG ONEdTWOcC-SIMPLIFIED LONGdGATEcMOUND ONEdTWOcRAINcBLUE",
    "cC-SIMPLIFIED TANNED LEATHERdLEAFdWINDdFLYcEAT ONEdTWOdTHREEcC-SIMPLIFIED EATcHEAD",
    "cC-SIMPLIFIED HORSEcBONEcGHOSTcC-SIMPLIFIED FISHdBIRDdSALTcSIMPLIFIED WHEATdYELLOW",
    "cC-SIMPLIFIED FROGcJ-SIMPLIFIED EVENcC-SIMPLIFIEDqcJ-SIMPLIFIED TOOTHcC-SIMPLIFIEDq",
    "cJ-SIMPLIFIED DRAGONcC-SIMPLIFIEDqcTURTLEcJ-SIMPLIFIEDqcC-SIMPLIFIEDq"]⟩,
    ⟨0x2F00, [
    "aKANGXI RADICAL ONEcLINEcDOTcSLASHcSECONDcHOOKcTWOcLIDcMANcLEGScENTERcEIGHTcDOWN BOXcCOVER",
    "cICEcTABLEcOPEN BOXcKNIFEcPOWERcWRAPcSPOONcRIGHT OPEN BOXcHIDING ENCLOSUREcTENcDIVINATION",
    "cSEALcCLIFFcPRIVATEcAGAINcMOUTHcENCLOSUREcEARTHcSCHOLARcGOdSLOWLYcEVENINGcBIGcWOMANcCHILD",
    "cROOFcINCHcSMALLcLAMEcCORPSEcSPROUTcMOUNTAINcRIVERcWORKcONESELFcTURBANcDRYcSHORT THREAD",
    "cDOTTED CLIFFcLONG STRIDEcTWO HANDScSHOOTcBOWcSNOUTcBRISTLEcSTEPcHEARTcHALBERDcDOORcHAND",
    "cBRANCHcRAPcSCRIPTcDIPPERcAXEcSQUAREcNOTcSUNcSAYcMOONcTREEcLACKcSTOPcDEATHcWEAPONcDO NOT",
    "cCOMPAREcFURcCLANcSTEAMcWATERcFIREcCLAWcFATHERcDOUBLE XcHALF TREE TRUNKcSLICEcFANGcCOWcDOG",
    "cPROFOUNDcJADEcMELONcTILEcSWEETcLIFEcUSEcFIELDcBOLT OF CLOTHcSICKNESScDOTTED TENTcWHITE",
    "cSKINcDISHcEYEcSPEARcARROWcSTONEcSPIRITcTRACKcGRAINcCAVEcSTANDcBAMBOOcRICEcSILKcJARcNET",
    "cSHEEPcFEATHERcOLDcANDcPLOWcEARcBRUSHcMEATcMINISTERcSELFcARRIVEcMORTARcTONGUEcOPPOSEcBOAT",
    "cSTOPPINGcCOLORcGRASScTIGERcINSECTcBLOODcWALK ENCLOSUREcCLOTHEScWESTcSEEcHORNcSPEECHcVALLEY",
    "cBEANcPIGcBADGERcSHELLcREDcRUNcFOOTcBODYcCARTcBITTERcMORNINGcWALKcCITYcWINEcDISTINGUISH",
    "cVILLAGEcGOLDcLONGcGATEcMOUNDcSLAVEcSHORT TAILED BIRDcRAINcBLUEcWRONGcFACEcLEATHERcTANNEDq",
    "cLEEKcSOUNDcLEAFcWINDcFLYcEATcHEADcFRAGRANTcHORSEcBONEcTALLcHAIRcFIGHTcSACRIFICIAL WINE",
    "cCAULDRONcGHOSTcFISHcBIRDcSALTcDEERcWHEATcHEMPcYELLOWcMILLETcBLACKcEMBROIDERYcFROGcTRIPOD",
    "cDRUMcRATcNOSEcEVENcTOOTHcDRAGONcTURTLEcFLUTE"]⟩,
    ⟨0x2FF0, [
    "aIDEOGRAPHIC DESCRIPTION CHARACTER LEFT TO RIGHTdABOVE TO BELOWdLEFT TO MIDDLE AND RIGHT",
    "dABOVE TO MIDDLE AND BELOWdFULL SURROUNDdSURROUND FROM ABOVEfBELOWfLEFTfUPPERqgRIGHT",
    "fLOWER LEFTdOVERLAID"]⟩,
    ⟨0x3000, [
    "aIDEOGRAPHIC SPACEbCOMMAbFULL STOPaDITTO MARKaJAPANESE INDUSTRIAL STANDARD SYMBOL",
    "aIDEOGRAPHIC ITERATION MARKbCLOSINGqbNUMBER ZEROaLEFT ANGLE BRACKETaRIGHTraLEFT DOUBLEr",
    "aRIGHTsaLEFT CORNERqaRIGHTraLEFT WHITEraRIGHTsaLEFT BLACK LENTICULARqaRIGHTsaPOSTAL MARK",
    "aGETAqaLEFT TORTOISE SHELL BRACKETaRIGHTsaLEFT WHITE LENTICULARqaRIGHTs",
    "aLEFT WHITE TORTOISE SHELLqaRIGHTtaLEFT WHITE SQUAREqaRIGHTsaWAVE DASH",
    "aREVERSED DOUBLE PRIME QUOTATION MARKataLOWtaPOSTAL MARK FACEaHANGZHOU NUMERAL ONEcTWO",
    "cTHREEcFOURcFIVEcSIXcSEVENcEIGHTcNINEaIDEOGRAPHIC LEVEL TONE MARKbRISINGrbDEPARTINGr",
    "bENTERINGraHANGUL SINGLE DOTrbDOUBLEsaWAVY DASHaVERTICAL KANA REPEAT MARK",
    "dWITH VOICED SOUNDqdMARK UPPER HALFdWITH VOICED SOUNDsdMARK LOWERqaCIRCLED POSTAL MARK",
    "aIDEOGRAPHIC TELEGRAPH LINE FEED SEPARATOR SYMBOLaHANGZHOU NUMERAL TENcTWENTYcTHIRTY",
    "aVERTICAL IDEOGRAPHIC ITERATION MARKaMASUqaPART ALTERNATIONq",
    "aIDEOGRAPHIC VARIATION INDICATORbHALF FILL SPACE"]⟩,
    ⟨0x3041, [
    "aHIRAGANA LETTER SMALL AcqcSMALL IcqcSMALL UcqcSMALL EcqcSMALL OcqcKAcGAcKIcGIcKUcGUcKEcGE",
    "cKOcGOcSAcZAcSIcZIcSUcZUcSEcZEcSOcZOcTAcDAcTIcDIcSMALL TUcqcDUcTEcDEcTOcDOcNAcNIcNUcNEcNO",
    "cHAcBAcPAcHIcBIcPIcHUcBUcPUcHEcBEcPEcHOcBOcPOcMAcMIcMUcMEcMOcSMALL YAcqcSMALL YUcqcSMALL YO",
    "cqcRAcRIcRUcREcROcSMALL WAcqcWIcWEcWOcNcVUcSMALL KAdKE"]⟩,
    ⟨0x3099, [
    "aCOMBINING KATAKANA-HIRAGANA VOICED SOUND MARKcSEMI-VOICEDraKATAKANA-HIRAGANA VOICEDr",
    "bSEMI-VOICEDraHIRAGANA ITERATIONqbVOICEDrbDIGRAPH YORIaKATAKANA-HIRAGANA DOUBLE HYPHEN",
    "aKATAKANA LETTER SMALL AcqcSMALL IcqcSMALL UcqcSMALL EcqcSMALL OcqcKAcGAcKIcGIcKUcGUcKEcGE",
    "cKOcGOcSAcZAcSIcZIcSUcZUcSEcZEcSOcZOcTAcDAcTIcDIcSMALL TUcqcDUcTEcDEcTOcDOcNAcNIcNUcNEcNO",
    "cHAcBAcPAcHIcBIcPIcHUcBUcPUcHEcBEcPEcHOcBOcPOcMAcMIcMUcMEcMOcSMALL YAcqcSMALL YUcqcSMALL YO",
    "cqcRAcRIcRUcREcROcSMALL WAcqcWIcWEcWOcNcVUcSMALL KAdKEcVAcVIcVEcVObMIDDLE DOT",
    "aKATAKANA-HIRAGANA PROLONGED SOUND MARKaKATAKANA ITERATIONqbVOICEDrbDIGRAPH KOTO"]⟩,
    ⟨0x3105, [
    "aBOPOMOFO LETTER BcPcMcFcDcTcNcLcGcKcHcJcQcXcZHcCHcSHcRcZcCcScAcOcEcEHcAIcEIcAUcOUcANcEN",
    "cANGcENGcERcIcUcIUcVcNGcGNcIHcO WITH DOT ABOVEcNN"]⟩,
    ⟨0x3131, [
    "aHANGUL LETTER KIYEOKcSSANGKIYEOKcKIYEOK-SIOScNIEUNcNIEUN-CIEUCcNIEUN-HIEUHcTIKEUT",
    "cSSANGTIKEUTcRIEULcRIEUL-KIYEOKcRIEUL-MIEUMcRIEUL-PIEUPcRIEUL-SIOScRIEUL-THIEUTH",
    "cRIEUL-PHIEUPHcRIEUL-HIEUHcMIEUMcPIEUPcSSANGPIEUPcPIEUP-SIOScSIOScSSANGSIOScIEUNGcCIEUC",
    "cSSANGCIEUCcCHIEUCHcKHIEUKHcTHIEUTHcPHIEUPHcHIEUHcAcAEcYAcYAEcEOcEcYEOcYEcOcWAcWAEcOEcYOcU",
    "cWEOcWEcWIcYUcEUcYIcIbFILLERbLETTER SSANGNIEUNcNIEUN-TIKEUTcNIEUN-SIOScNIEUN-PANSIOS",
    "cRIEUL-KIYEOK-SIOScRIEUL-TIKEUTcRIEUL-PIEUP-SIOScRIEUL-PANSIOScRIEUL-YEORINHIEUH",
    "cMIEUM-PIEUPcMIEUM-SIOScMIEUM-PANSIOScKAPYEOUNMIEUMcPIEUP-KIYEOKcPIEUP-TIKEUT",
    "cPIEUP-SIOS-KIYEOKcPIEUP-SIOS-TIKEUTcPIEUP-CIEUCcPIEUP-THIEUTHcKAPYEOUNPIEUP",
    "cKAPYEOUNSSANGPIEUPcSIOS-KIYEOKcSIOS-NIEUNcSIOS-TIKEUTcSIOS-PIEUPcSIOS-CIEUCcPANSIOS",
    "cSSANGIEUNGcYESIEUNGcYESIEUNG-SIOScYESIEUNG-PANSIOScKAPYEOUNPHIEUPHcSSANGHIEUHcYEORINHIEUH",
    "cYO-YAcYO-YAEcYO-IcYU-YEOcYU-YEcYU-IcARAEAcARAEAE"]⟩,
    ⟨0x3190, [
    "aIDEOGRAPHIC ANNOTATION LINKING MARKcREVERSEqcONEqcTWOqcTHREEqcFOURqcTOPqcMIDDLEqcBOTTOMq",
    "cFIRSTqcSECONDqcTHIRDqcFOURTHqcHEAVENqcEARTHqcMANqaBOPOMOFO LETTER BUcZIcJIcGUcEEcENNcOO",
    "cONNcIRcANNcINNcUNNcIMcNGGcAINNcAUNNcAMcOMcONGcINNNbFINAL LETTER PdTdKdHbLETTER GHcLHcZY",
    "bFINAL LETTER GbLETTER GWcKWcOEcAHaCJK STROKE TcWGcXGcBXGcSWcHZZcHZGcHPcHZWGcSZWGcHZTcHZZP",
    "cHPWGcHZWcHZZZcNcHcScPcSPcDcHZcHGcSZcSWZcSTcSGcPDcPZcTNcSZZcSWGcHXWGcHZZZGcPGcQ"]⟩,
    ⟨0x31F0, [
    "aKATAKANA LETTER SMALL KUdSIdSUdTOdNUdHAdHIdHUdHEdHOdMUdRAdRIdRUdREdRO",
    "aPARENTHESIZED HANGUL KIYEOKcNIEUNcTIKEUTcRIEULcMIEUMcPIEUPcSIOScIEUNGcCIEUCcCHIEUCH",
    "cKHIEUKHcTHIEUTHcPHIEUPHcHIEUHcKIYEOK AcNIEUNqcTIKEUTqcRIEULqcMIEUMqcPIEUPqcSIOSqcIEUNGq",
    "cCIEUCqcCHIEUCHqcKHIEUKHqcTHIEUTHqcPHIEUPHqcHIEUHqcCIEUC UbKOREAN CHARACTER OJEONdO HU"]⟩,
    ⟨0x3220, [
    "aPARENTHESIZED IDEOGRAPH ONEcTWOcTHREEcFOURcFIVEcSIXcSEVENcEIGHTcNINEcTENcMOONcFIREcWATER",
    "cWOODcMETALcEARTHcSUNcSTOCKcHAVEcSOCIETYcNAMEcSPECIALcFINANCIALcCONGRATULATIONcLABOR",
    "cREPRESENTcCALLcSTUDYcSUPERVISEcENTERPRISEcRESOURCEcALLIANCEcFESTIVALcRESTcSELFcREACH",
    "aCIRCLED IDEOGRAPH QUESTIONcKINDERGARTENcSCHOOLcKOTObNUMBER TEN ON BLACK SQUAREcTWENTYs",
    "cTHIRTYscFORTYscFIFTYscSIXTYscSEVENTYscEIGHTYsaPARTNERSHIP SIGNaCIRCLED NUMBER TWENTY ONE",
    "dTWOdTHREEdFOURdFIVEdSIXdSEVENdEIGHTdNINEcTHIRTYdONEdTWOdTHREEdFOURdFIVEbHANGUL KIYEOK",
    "cNIEUNcTIKEUTcRIEULcMIEUMcPIEUPcSIOScIEUNGcCIEUCcCHIEUCHcKHIEUKHcTHIEUTHcPHIEUPHcHIEUH",
    "cKIYEOK AcNIEUNqcTIKEUTqcRIEULqcMIEUMqcPIEUPqcSIOSqcIEUNGqcCIEUCqcCHIEUCHqcKHIEUKHq",
    "cTHIEUTHqcPHIEUPHqcHIEUHqbKOREAN CHARACTER CHAMKOdJUEUIbHANGUL IEUNG U",
    "aKOREAN STANDARD SYMBOLaCIRCLED IDEOGRAPH ONEcTWOcTHREEcFOURcFIVEcSIXcSEVENcEIGHTcNINEcTEN",
    "cMOONcFIREcWATERcWOODcMETALcEARTHcSUNcSTOCKcHAVEcSOCIETYcNAMEcSPECIALcFINANCIAL",
    "cCONGRATULATIONcLABORcSECRETcMALEcFEMALEcSUITABLEcEXCELLENTcPRINTcATTENTIONcITEMcRESTcCOPY",
    "cCORRECTcHIGHcCENTREcLOWcLEFTcRIGHTcMEDICINEcRELIGIONcSTUDYcSUPERVISEcENTERPRISEcRESOURCE",
    "cALLIANCEcNIGHTbNUMBER THIRTY SIXdSEVENdEIGHTdNINEcFORTYdONEdTWOdTHREEdFOURdFIVEdSIXdSEVEN",
    "dEIGHTdNINEcFIFTYaIDEOGRAPHIC TELEGRAPH SYMBOL FOR JANUARYeFEBRUARYeMARCHeAPRILeMAYeJUNE",
    "eJULYeAUGUSTeSEPTEMBEReOCTOBEReNOVEMBEReDECEMBERaSQUARE HGbERGbEVaLIMITED LIABILITY SIGN",
    "aCIRCLED KATAKANA AcIcUcEcOcKAcKIcKUcKEcKOcSAcSIcSUcSEcSOcTAcTIcTUcTEcTOcNAcNIcNUcNEcNOcHA",
    "cHIcHUcHEcHOcMAcMIcMUcMEcMOcYAcYUcYOcRAcRIcRUcREcROcWAcWIcWEcWOaSQUARE ERA NAME REIWA",
    "bAPAATObARUHUAbANPEAbAARUbININGUbINTIbUONbESUKUUDObEEKAAbONSUbOOMUbKAIRIbKARATTObKARORII",
    "bGARONbGANMAbGIGAbGINIIbKYURIIbGIRUDAAbKIRObKIROGURAMUbKIROMEETORUbKIROWATTObGURAMU",
    "bGURAMUTONbKURUZEIRObKUROONEbKEESUbKORUNAbKOOPObSAIKURUbSANTIIMUbSIRINGUbSENTIbSENTObDAASU",
    "bDESIbDORUbTONbNANObNOTTObHAITUbPAASENTObPAATUbBAARERUbPIASUTORUbPIKURUbPIKObBIRUbHUARADDO",
    "bHUIITObBUSSYERUbHURANbHEKUTAARUbPESObPENIHIbHERUTUbPENSUbPEEZIbBEETAbPOINTObBORUTObHON",
    "bPONDObHOORUbHOONbMAIKURObMAIRUbMAHHAbMARUKUbMANSYONbMIKURONbMIRIbMIRIBAARUbMEGAbMEGATON",
    "bMEETORUbYAADObYAARUbYUANbRITTORUbRIRAbRUPIIbRUUBURUbREMUbRENTOGENbWATTO",
    "aIDEOGRAPHIC TELEGRAPH SYMBOL FOR HOUR ZEROfONEfTWOfTHREEfFOURfFIVEfSIXfSEVENfEIGHTfNINE",
    "fTENfELEVENfTWELVEfTHIRTEENfFOURTEENfFIFTEENfSIXTEENfSEVENTEENfEIGHTEENfNINETEENfTWENTY",
    "fTWENTY-ONEfTWENTY-TWOfTWENTY-THREEfTWENTY-FOURaSQUARE HPAbDAbAUbBARbOVbPCbDMcSQUAREDcCUBED",
    "bIUbERA NAME HEISEIdSYOUWAdTAISYOUdMEIZIbCORPORATIONbPA AMPSbNAbMU AbMAbKAbKBbMBbGBbCAL",
    "bKCALbPFbNFbMU FcGbMGbKGbHZbKHZbMHZbGHZbTHZbMU LbMLbDLbKLbFMbNMbMU MbMMbCMbKMbMM SQUARED",
    "bCMqbMqbKMqbMM CUBEDbCMqbMqbKMqbM OVER SeSQUAREDbPAbKPAbMPAbGPAbRADcOVER SeSQUAREDbPSbNS",
    "bMU SbMSbPVbNVbMU VbMVbKVbMV MEGAbPWbNWbMU WbMWbKWbMW MEGAbK OHMbMqbAMbBQbCCbCDbC OVER KG",
    "bCObDBbGYbHAbHPbINbKKbKM CAPITALbKTbLMbLNbLOGbLXbMB SMALLbMILbMOLbPHbPMbPPMbPRbSRbSVbWB",
    "bV OVER MbAraIDEOGRAPHIC TELEGRAPH SYMBOL FOR DAY ONEfTWOfTHREEfFOURfFIVEfSIXfSEVENfEIGHT",
    "fNINEfTENfELEVENfTWELVEfTHIRTEENfFOURTEENfFIFTEENfSIXTEENfSEVENTEENfEIGHTEENfNINETEEN",
    "fTWENTYfTWENTY-ONEfTWENTY-TWOfTWENTY-THREEfTWENTY-FOURfTWENTY-FIVEfTWENTY-SIXfTWENTY-SEVEN",
    "fTWENTY-EIGHTfTWENTY-NINEfTHIRTYfTHIRTY-ONEaSQUARE GAL"]⟩,
    ⟨0x4DC0, [
    "aHEXAGRAM FOR THE CREATIVE HEAVENdRECEPTIVE EARTHcDIFFICULTY AT THE BEGINNING",
    "cYOUTHFUL FOLLYcWAITINGcCONFLICTcTHE ARMYcHOLDING TOGETHERcSMALL TAMINGcTREADINGcPEACE",
    "cSTANDSTILLcFELLOWSHIPcGREAT POSSESSIONcMODESTYcENTHUSIASMcFOLLOWINGcWORK ON THE DECAYED",
    "cAPPROACHcCONTEMPLATIONcBITING THROUGHcGRACEcSPLITTING APARTcRETURNcINNOCENCEcGREAT TAMING",
    "cMOUTH CORNERScGREAT PREPONDERANCEcTHE ABYSMAL WATERdCLINGING FIREcINFLUENCEcDURATION",
    "cRETREATcGREAT POWERcPROGRESScDARKENING OF THE LIGHTcTHE FAMILYcOPPOSITIONcOBSTRUCTION",
    "cDELIVERANCEcDECREASEcINCREASEcBREAKTHROUGHcCOMING TO MEETcGATHERING TOGETHER",
    "cPUSHING UPWARDcOPPRESSIONcTHE WELLcREVOLUTIONcTHE CAULDRONdAROUSING THUNDER",
    "dKEEPING STILL MOUNTAINcDEVELOPMENTcTHE MARRYING MAIDENcABUNDANCEcTHE WANDERERdGENTLE WIND",
    "dJOYOUS LAKEcDISPERSIONcLIMITATIONcINNER TRUTHcSMALL PREPONDERANCEcAFTER COMPLETIONcBEFOREq"]⟩]

/-- The names from U+A000 to U+ABFF. -/
def fromA000 : List Block :=
  [⟨0xA000, [
    "aYI SYLLABLE ITcIXcIcIPcIETcIEXcIEcIEPcATcAXcAcAPcUOXcUOcUOPcOTcOXcOcOPcEXcEcWUcBITcBIXcBI",
    "cBIPcBIETcBIEXcBIEcBIEPcBATcBAXcBAcBAPcBUOXcBUOcBUOPcBOTcBOXcBOcBOPcBEXcBEcBEPcBUTcBUXcBU",
    "cBUPcBURXcBURcBYTcBYXcBYcBYPcBYRXcBYRcPITcPIXcPIcPIPcPIEXcPIEcPIEPcPATcPAXcPAcPAPcPUOXcPUO",
    "cPUOPcPOTcPOXcPOcPOPcPUTcPUXcPUcPUPcPURXcPURcPYTcPYXcPYcPYPcPYRXcPYRcBBITcBBIXcBBIcBBIP",
    "cBBIETcBBIEXcBBIEcBBIEPcBBATcBBAXcBBAcBBAPcBBUOXcBBUOcBBUOPcBBOTcBBOXcBBOcBBOPcBBEXcBBE",
    "cBBEPcBBUTcBBUXcBBUcBBUPcBBURXcBBURcBBYTcBBYXcBBYcBBYPcNBITcNBIXcNBIcNBIPcNBIEXcNBIEcNBIEP",
    "cNBATcNBAXcNBAcNBAPcNBOTcNBOXcNBOcNBOPcNBUTcNBUXcNBUcNBUPcNBURXcNBURcNBYTcNBYXcNBYcNBYP",
    "cNBYRXcNBYRcHMITcHMIXcHMIcHMIPcHMIEXcHMIEcHMIEPcHMATcHMAXcHMAcHMAPcHMUOXcHMUOcHMUOPcHMOT",
    "cHMOXcHMOcHMOPcHMUTcHMUXcHMUcHMUPcHMURXcHMURcHMYXcHMYcHMYPcHMYRXcHMYRcMITcMIXcMIcMIPcMIEX",
    "cMIEcMIEPcMATcMAXcMAcMAPcMUOTcMUOXcMUOcMUOPcMOTcMOXcMOcMOPcMEXcMEcMUTcMUXcMUcMUPcMURXcMUR",
    "cMYTcMYXcMYcMYPcFITcFIXcFIcFIPcFATcFAXcFAcFAPcFOXcFOcFOPcFUTcFUXcFUcFUPcFURXcFURcFYTcFYXcFY",
    "cFYPcVITcVIXcVIcVIPcVIETcVIEXcVIEcVIEPcVATcVAXcVAcVAPcVOTcVOXcVOcVOPcVEXcVEPcVUTcVUXcVUcVUP",
    "cVURXcVURcVYTcVYXcVYcVYPcVYRXcVYRcDITcDIXcDIcDIPcDIEXcDIEcDIEPcDATcDAXcDAcDAPcDUOXcDUOcDOT",
    "cDOXcDOcDOPcDEXcDEcDEPcDUTcDUXcDUcDUPcDURXcDURcTITcTIXcTIcTIPcTIEXcTIEcTIEPcTATcTAXcTAcTAP",
    "cTUOTcTUOXcTUOcTUOPcTOTcTOXcTOcTOPcTEXcTEcTEPcTUTcTUXcTUcTUPcTURXcTURcDDITcDDIXcDDIcDDIP",
    "cDDIEXcDDIEcDDIEPcDDATcDDAXcDDAcDDAPcDDUOXcDDUOcDDUOPcDDOTcDDOXcDDOcDDOPcDDEXcDDEcDDEPcDDUT",
    "cDDUXcDDUcDDUPcDDURXcDDURcNDITcNDIXcNDIcNDIPcNDIEXcNDIEcNDATcNDAXcNDAcNDAPcNDOTcNDOXcNDO",
    "cNDOPcNDEXcNDEcNDEPcNDUTcNDUXcNDUcNDUPcNDURXcNDURcHNITcHNIXcHNIcHNIPcHNIETcHNIEXcHNIEcHNIEP",
    "cHNATcHNAXcHNAcHNAPcHNUOXcHNUOcHNOTcHNOXcHNOPcHNEXcHNEcHNEPcHNUTcNITcNIXcNIcNIPcNIEXcNIE",
    "cNIEPcNAXcNAcNAPcNUOXcNUOcNUOPcNOTcNOXcNOcNOPcNEXcNEcNEPcNUTcNUXcNUcNUPcNURXcNURcHLITcHLIX",
    "cHLIcHLIPcHLIEXcHLIEcHLIEPcHLATcHLAXcHLAcHLAPcHLUOXcHLUOcHLUOPcHLOXcHLOcHLOPcHLEXcHLEcHLEP",
    "cHLUTcHLUXcHLUcHLUPcHLURXcHLURcHLYTcHLYXcHLYcHLYPcHLYRXcHLYRcLITcLIXcLIcLIPcLIETcLIEXcLIE",
    "cLIEPcLATcLAXcLAcLAPcLUOTcLUOXcLUOcLUOPcLOTcLOXcLOcLOPcLEXcLEcLEPcLUTcLUXcLUcLUPcLURXcLUR",
    "cLYTcLYXcLYcLYPcLYRXcLYRcGITcGIXcGIcGIPcGIETcGIEXcGIEcGIEPcGATcGAXcGAcGAPcGUOTcGUOXcGUO",
    "cGUOPcGOTcGOXcGOcGOPcGETcGEXcGEcGEPcGUTcGUXcGUcGUPcGURXcGURcKITcKIXcKIcKIPcKIEXcKIEcKIEP",
    "cKATcKAXcKAcKAPcKUOXcKUOcKUOPcKOTcKOXcKOcKOPcKETcKEXcKEcKEPcKUTcKUXcKUcKUPcKURXcKURcGGIT",
    "cGGIXcGGIcGGIEXcGGIEcGGIEPcGGATcGGAXcGGAcGGAPcGGUOTcGGUOXcGGUOcGGUOPcGGOTcGGOXcGGOcGGOP",
    "cGGETcGGEXcGGEcGGEPcGGUTcGGUXcGGUcGGUPcGGURXcGGURcMGIEXcMGIEcMGATcMGAXcMGAcMGAPcMGUOXcMGUO",
    "cMGUOPcMGOTcMGOXcMGOcMGOPcMGEXcMGEcMGEPcMGUTcMGUXcMGUcMGUPcMGURXcMGURcHXITcHXIXcHXIcHXIP",
    "cHXIETcHXIEXcHXIEcHXIEPcHXATcHXAXcHXAcHXAPcHXUOTcHXUOXcHXUOcHXUOPcHXOTcHXOXcHXOcHXOPcHXEX",
    "cHXEcHXEPcNGIEXcNGIEcNGIEPcNGATcNGAXcNGAcNGAPcNGUOTcNGUOXcNGUOcNGOTcNGOXcNGOcNGOPcNGEXcNGE",
    "cNGEPcHITcHIEXcHIEcHATcHAXcHAcHAPcHUOTcHUOXcHUOcHUOPcHOTcHOXcHOcHOPcHEXcHEcHEPcWATcWAXcWA",
    "cWAPcWUOXcWUOcWUOPcWOXcWOcWOPcWEXcWEcWEPcZITcZIXcZIcZIPcZIEXcZIEcZIEPcZATcZAXcZAcZAPcZUOX",
    "cZUOcZUOPcZOTcZOXcZOcZOPcZEXcZEcZEPcZUTcZUXcZUcZUPcZURXcZURcZYTcZYXcZYcZYPcZYRXcZYRcCITcCIX",
    "cCIcCIPcCIETcCIEXcCIEcCIEPcCATcCAXcCAcCAPcCUOXcCUOcCUOPcCOTcCOXcCOcCOPcCEXcCEcCEPcCUTcCUX",
    "cCUcCUPcCURXcCURcCYTcCYXcCYcCYPcCYRXcCYRcZZITcZZIXcZZIcZZIPcZZIETcZZIEXcZZIEcZZIEPcZZAT",
    "cZZAXcZZAcZZAPcZZOXcZZOcZZOPcZZEXcZZEcZZEPcZZUXcZZUcZZUPcZZURXcZZURcZZYTcZZYXcZZYcZZYP",
    "cZZYRXcZZYRcNZITcNZIXcNZIcNZIPcNZIEXcNZIEcNZIEPcNZATcNZAXcNZAcNZAPcNZUOXcNZUOcNZOXcNZOP",
    "cNZEXcNZEcNZUXcNZUcNZUPcNZURXcNZURcNZYTcNZYXcNZYcNZYPcNZYRXcNZYRcSITcSIXcSIcSIPcSIEXcSIE",
    "cSIEPcSATcSAXcSAcSAPcSUOXcSUOcSUOPcSOTcSOXcSOcSOPcSEXcSEcSEPcSUTcSUXcSUcSUPcSURXcSURcSYT",
    "cSYXcSYcSYPcSYRXcSYRcSSITcSSIXcSSIcSSIPcSSIEXcSSIEcSSIEPcSSATcSSAXcSSAcSSAPcSSOTcSSOXcSSO",
    "cSSOPcSSEXcSSEcSSEPcSSUTcSSUXcSSUcSSUPcSSYTcSSYXcSSYcSSYPcSSYRXcSSYRcZHATcZHAXcZHAcZHAP",
    "cZHUOXcZHUOcZHUOPcZHOTcZHOXcZHOcZHOPcZHETcZHEXcZHEcZHEPcZHUTcZHUXcZHUcZHUPcZHURXcZHURcZHYT",
    "cZHYXcZHYcZHYPcZHYRXcZHYRcCHATcCHAXcCHAcCHAPcCHUOTcCHUOXcCHUOcCHUOPcCHOTcCHOXcCHOcCHOPcCHET",
    "cCHEXcCHEcCHEPcCHUXcCHUcCHUPcCHURXcCHURcCHYTcCHYXcCHYcCHYPcCHYRXcCHYRcRRAXcRRAcRRUOXcRRUO",
    "cRROTcRROXcRROcRROPcRRETcRREXcRREcRREPcRRUTcRRUXcRRUcRRUPcRRURXcRRURcRRYTcRRYXcRRYcRRYP",
    "cRRYRXcRRYRcNRATcNRAXcNRAcNRAPcNROXcNROcNROPcNRETcNREXcNREcNREPcNRUTcNRUXcNRUcNRUPcNRURX",
    "cNRURcNRYTcNRYXcNRYcNRYPcNRYRXcNRYRcSHATcSHAXcSHAcSHAPcSHUOXcSHUOcSHUOPcSHOTcSHOXcSHOcSHOP",
    "cSHETcSHEXcSHEcSHEPcSHUTcSHUXcSHUcSHUPcSHURXcSHURcSHYTcSHYXcSHYcSHYPcSHYRXcSHYRcRATcRAXcRA",
    "cRAPcRUOXcRUOcRUOPcROTcROXcROcROPcREXcREcREPcRUTcRUXcRUcRUPcRURXcRURcRYTcRYXcRYcRYPcRYRX",
    "cRYRcJITcJIXcJIcJIPcJIETcJIEXcJIEcJIEPcJUOTcJUOXcJUOcJUOPcJOTcJOXcJOcJOPcJUTcJUXcJUcJUP",
    "cJURXcJURcJYTcJYXcJYcJYPcJYRXcJYRcQITcQIXcQIcQIPcQIETcQIEXcQIEcQIEPcQUOTcQUOXcQUOcQUOPcQOT",
    "cQOXcQOcQOPcQUTcQUXcQUcQUPcQURXcQURcQYTcQYXcQYcQYPcQYRXcQYRcJJITcJJIXcJJIcJJIPcJJIETcJJIEX",
    "cJJIEcJJIEPcJJUOXcJJUOcJJUOPcJJOTcJJOXcJJOcJJOPcJJUTcJJUXcJJUcJJUPcJJURXcJJURcJJYTcJJYXcJJY",
    "cJJYPcNJITcNJIXcNJIcNJIPcNJIETcNJIEXcNJIEcNJIEPcNJUOXcNJUOcNJOTcNJOXcNJOcNJOPcNJUXcNJUcNJUP",
    "cNJURXcNJURcNJYTcNJYXcNJYcNJYPcNJYRXcNJYRcNYITcNYIXcNYIcNYIPcNYIETcNYIEXcNYIEcNYIEPcNYUOX",
    "cNYUOcNYUOPcNYOTcNYOXcNYOcNYOPcNYUTcNYUXcNYUcNYUPcXITcXIXcXIcXIPcXIETcXIEXcXIEcXIEPcXUOX",
    "cXUOcXOTcXOXcXOcXOPcXYTcXYXcXYcXYPcXYRXcXYRcYITcYIXcYIcYIPcYIETcYIEXcYIEcYIEPcYUOTcYUOXcYUO",
    "cYUOPcYOTcYOXcYOcYOPcYUTcYUXcYUcYUPcYURXcYURcYYTcYYXcYYcYYPcYYRXcYYR"]⟩,
    ⟨0xA490, [
    "aYI RADICAL QOTcLIcKITcNYIPcCYPcSSIcGGOPcGEPcMIcHXITcLYRcBBUTcMOPcYOcPUTcHXUOcTATcGAcZUP",
    "cCYTcDDURcBURcGGUOcNYOPcTUcOPcJJUTcZOTcPYTcHMOcYITcVURcSHYcVEPcZAcJOcNZUPcJJYcGOTcJJIEcWO",
    "cDUcSHURcLIEcCYcCUOPcCIPcHXOPcSHATcZURcSHOPcCHEcZZIETcNBIEcKE"]⟩,
    ⟨0xA4D0, [
    "aLISU LETTER BAcPAcPHAcDAcTAcTHAcGAcKAcKHAcJAcCAcCHAcDZAcTSAcTSHAcMAcNAcLAcSAcZHAcZAcNGAcHA",
    "cXAcHHAcFAcWAcSHAcYAcGHAcAcAEcEcEUcIcOcUcUEcUHcOEcTONE MYA TIdNA POdMYA CYAeBOeNAeJEU",
    "bPUNCTUATION COMMAcFULL STOPaVAI SYLLABLE EEcEENcHEEcWEEcWEENcPEEcBHEEcBEEcMBEEcKPEEcMGBEE",
    "cGBEEcFEEcVEEcTEEcTHEEcDHEEcDHHEEcLEEcREEcDEEcNDEEcSEEcSHEEcZEEcZHEEcCEEcJEEcNJEEcYEEcKEE",
    "cNGGEEcGEEcMEEcNEEcNYEEcIcINcHIcHINcWIcWINcPIcBHIcBIcMBIcKPIcMGBIcGBIcFIcVIcTIcTHIcDHIcDHHI",
    "cLIcRIcDIcNDIcSIcSHIcZIcZHIcCIcJIcNJIcYIcKIcNGGIcGIcMIcNIcNYIcAcANcNGANcHAcHANcWAcWANcPA",
    "cBHAcBAcMBAcKPAcKPANcMGBAcGBAcFAcVAcTAcTHAcDHAcDHHAcLAcRAcDAcNDAcSAcSHAcZAcZHAcCAcJAcNJAcYA",
    "cKAcKANcNGGAcGAcMAcNAcNYAcOOcOONcHOOcWOOcWOONcPOOcBHOOcBOOcMBOOcKPOOcMGBOOcGBOOcFOOcVOOcTOO",
    "cTHOOcDHOOcDHHOOcLOOcROOcDOOcNDOOcSOOcSHOOcZOOcZHOOcCOOcJOOcNJOOcYOOcKOOcNGGOOcGOOcMOOcNOO",
    "cNYOOcUcUNcHUcHUNcWUcWUNcPUcBHUcBUcMBUcKPUcMGBUcGBUcFUcVUcTUcTHUcDHUcDHHUcLUcRUcDUcNDUcSU",
    "cSHUcZUcZHUcCUcJUcNJUcYUcKUcNGGUcGUcMUcNUcNYUcOcONcNGONcHOcHONcWOcWONcPOcBHOcBOcMBOcKPO",
    "cMGBOcGBOcGBONcFOcVOcTOcTHOcDHOcDHHOcLOcROcDOcNDOcSOcSHOcZOcZHOcCOcJOcNJOcYOcKOcNGGOcGOcMO",
    "cNOcNYOcEcENcNGENcHEcHENcWEcWENcPEcBHEcBEcMBEcKPEcKPENcMGBEcGBEcGBENcFEcVEcTEcTHEcDHEcDHHE",
    "cLEcREcDEcNDEcSEcSHEcZEcZHEcCEcJEcNJEcYEcKEcNGGEcNGGENcGEcGENcMEcNEcNYEcNGcLENGTHENERbCOMMA",
    "bFULL STOPbQUESTION MARKbSYLLABLE NDOLE FAdKAdSOObSYMBOL FEENGcKEENGcTINGcNIIcBANGcFAAcTAA",
    "cDANGcDOONGcKUNGcTONGcDO-OcJONGbDIGIT ZEROcONEcTWOcTHREEcFOURcFIVEcSIXcSEVENcEIGHTcNINE",
    "bSYLLABLE NDOLE MAdDO"]⟩,
    ⟨0xA640, [
    "aCYRILLIC CAPITAL LETTER ZEMLYAbSMALLrbCAPITAL LETTER DZELObSMALLr",
    "bCAPITAL LETTER REVERSED DZEbSMALLsbCAPITAL LETTER IOTAbSMALLrbCAPITAL LETTER DJERVbSMALLr",
    "bCAPITAL LETTER MONOGRAPH UKbSMALLsbCAPITAL LETTER BROAD OMEGAbSMALLs",
    "bCAPITAL LETTER NEUTRAL YERbSMALLsbCAPITAL LETTER YERU WITH BACKqbSMALLu",
    "bCAPITAL LETTER IOTIFIED YATbSMALLsbCAPITAL LETTER REVERSED YUbSMALLs",
    "bCAPITAL LETTER IOTIFIED AbSMALLsbCAPITAL LETTER CLOSED LITTLE YUSbSMALLt",
    "bCAPITAL LETTER BLENDEDqbSMALLsbCAPITAL LETTER IOTIFIED CLOSED LITTLEqbSMALLu",
    "bCAPITAL LETTER YNbSMALLrbCAPITAL LETTER REVERSED TSEbSMALLsbCAPITAL LETTER SOFT DEbSMALLs",
    "bCAPITAL LETTER SOFT ELbSMALLsbCAPITAL LETTER SOFT EMbSMALLsbCAPITAL LETTER MONOCULAR O",
    "bSMALLsbCAPITAL LETTER BINOCULARqbSMALLsbCAPITAL LETTER DOUBLE MONOCULARqbSMALLt",
    "bLETTER MULTIOCULARqaCOMBINING CYRILLIC VZMETcTEN MILLIONS SIGNcHUNDREDrcTHOUSANDr",
    "aSLAVONIC ASTERISKaCOMBINING CYRILLIC LETTER UKRAINIAN IEdIdYIdUdHARD SIGNdYERUdSOFT SIGN",
    "dOMEGAcKAVYKAcPAYEROKaCYRILLIC KAVYKAbPAYEROKbCAPITAL LETTER DWEbSMALLrbCAPITAL LETTER DZWE",
    "bSMALLrbCAPITAL LETTER ZHWEbSMALLrbCAPITAL LETTER CCHEbSMALLrbCAPITAL LETTER DZZEbSMALLr",
    "bCAPITAL LETTER TE WITH MIDDLE HOOKbSMALLubCAPITAL LETTER TWEbSMALLrbCAPITAL LETTER TSWE",
    "bSMALLrbCAPITAL LETTER TSSEbSMALLrbCAPITAL LETTER TCHEbSMALLrbCAPITAL LETTER HWEbSMALLr",
    "bCAPITAL LETTER SHWEbSMALLrbCAPITAL LETTER DOUBLE ObSMALLsbCAPITAL LETTER CROSSEDqbSMALLs",
    "aMODIFIER LETTER CYRILLIC HARD SIGNdSOFTqaCOMBINING CYRILLIC LETTER EFdIOTIFIED E",
    "aBAMUM LETTER AcKAcUcKUcEEcREEcTAEcOcNYIcIcLAcPAcRIIcRIEEcLEEEEcMEEEEcTAAcNDAAcNJAEMcMcSUU",
    "cMUcSHIIcSIcSHEUXcSEUXcKYEEcKETcNUAEcNUcNJUAEcYOQcSHUcYUQcYAcNSHAcKEUXcPEUXcNJEEcNTEEcPUE",
    "cWUEcPEEcFEEcRUcLUcMIcNIcREUXcRAEcKENcNGKWAENcNGGAcNGAcSHOcPUAEcFUcFOMcWAcNAcLIcPIcLOQcKO",
    "cMBENcRENcMENcMAcTIcKIcMOcMBAAcTETcKPAcTENcNTUUcSAMBAcFAAMAEcKOVUUcKOGHOM",
    "bCOMBINING MARK KOQNDONdTUKWENTISbNJAEMLIbFULL STOPbCOLONbCOMMAbSEMICOLONbQUESTION MARK"]⟩,
    ⟨0xA700, [
    "aMODIFIER LETTER CHINESE TONE YIN PINGeYANGqeYIN SHANGeYANGqeYIN QUeYANGqeYIN RUeYANGq",
    "cEXTRA-HIGH DOTTED TONE BARcHIGHscMIDscLOWscEXTRA-LOWscEXTRA-HIGH DOTTED LEFT-STEMrcHIGHt",
    "cMIDtcLOWtcEXTRA-LOWtcEXTRA-HIGHscHIGHscMIDscLOWscEXTRA-LOWscDOT VERTICALqdSLASH",
    "dHORIZONTAL BARcLOWER RIGHT CORNER ANGLEcRAISED UP ARROWdDOWNqdEXCLAMATION MARKdINVERTEDr",
    "cLOWscSTRESS AND HIGH TONEeLOWqaLATIN CAPITAL LETTER EGYPTOLOGICAL ALEFbSMALLs",
    "bCAPITAL LETTER EGYPTOLOGICAL AINbSMALLsbCAPITAL LETTER HENGbSMALLrbCAPITAL LETTER TZ",
    "bSMALLrbCAPITAL LETTER TRESILLObSMALLrbCAPITAL LETTER CUATRILLObSMALLr",
    "bCAPITAL LETTER CUATRILLO WITH COMMAbSMALLtbLETTER SMALL CAPITAL FeSbCAPITAL LETTER AA",
    "bSMALLrbCAPITAL LETTER AObSMALLrbCAPITAL LETTER AUbSMALLrbCAPITAL LETTER AVbSMALLr",
    "bCAPITAL LETTER AV WITH HORIZONTAL BARbSMALLubCAPITAL LETTER AYbSMALLr",
    "bCAPITAL LETTER REVERSED C WITH DOTbSMALLubCAPITAL LETTER K WITH STROKEbSMALLt",
    "bCAPITAL LETTER K WITH DIAGONALqbSMALLubCAPITAL LETTER K WITH STROKE ANDrbSMALLw",
    "bCAPITAL LETTER BROKEN LbSMALLsbCAPITAL LETTER L WITH HIGH STROKEbSMALLu",
    "bCAPITAL LETTER O WITH LONG STROKE OVERLAYbSMALLvbCAPITAL LETTER O WITH LOOPbSMALLt",
    "bCAPITAL LETTER OObSMALLrbCAPITAL LETTER P WITH STROKE THROUGH DESCENDERbSMALLv",
    "bCAPITAL LETTER P WITH FLOURISHbSMALLtbCAPITAL LETTER P WITH SQUIRREL TAILbSMALLu",
    "bCAPITAL LETTER Q WITH STROKE THROUGH DESCENDERbSMALLv",
    "bCAPITAL LETTER Q WITH DIAGONAL STROKEbSMALLubCAPITAL LETTER R ROTUNDAbSMALLs",
    "bCAPITAL LETTER RUMqbSMALLsbCAPITAL LETTER V WITH DIAGONAL STROKEbSMALLubCAPITAL LETTER VY",
    "bSMALLrbCAPITAL LETTER VISIGOTHIC ZbSMALLsbCAPITAL LETTER THORN WITH STROKEbSMALLt",
    "bCAPITAL LETTER THORN WITH STROKE THROUGH DESCENDERbSMALLvbCAPITAL LETTER VENDbSMALLr",
    "bCAPITAL LETTER ETbSMALLrbCAPITAL LETTER ISbSMALLrbCAPITAL LETTER CONbSMALLr",
    "aMODIFIER LETTER USaLATIN SMALL LETTER DUMdLUMdMUMdNUMdRUMbLETTER SMALL CAPITALq",
    "bSMALL LETTER TUMdUMbCAPITAL LETTER INSULAR DbSMALLsbCAPITAL LETTER INSULAR FbSMALLs",
    "bCAPITAL LETTER INSULAR GdTURNEDrbSMALLtbCAPITAL LETTER TURNED LbSMALLs",
    "bCAPITAL LETTER INSULAR RbSMALLsbCAPITAL LETTER INSULAR SbSMALLsbCAPITAL LETTER INSULAR T",
    "bSMALLsaMODIFIER LETTER LOW CIRCUMFLEX ACCENTcCOLONcSHORT EQUALS SIGN",
    "aLATIN CAPITAL LETTER SALTILLObSMALLrbCAPITAL LETTER TURNED H",
    "bSMALL LETTER L WITH RETROFLEX HOOK AND BELTbLETTER SINOLOGICAL DOT",
    "bCAPITAL LETTER N WITH DESCENDERbSMALLtbCAPITAL LETTER C WITH BARbSMALLtfPALATAL HOOKdHs",
    "bCAPITAL LETTER B WITH FLOURISHbSMALLtbCAPITAL LETTER F WITH STROKEbSMALLt",
    "bCAPITAL LETTER VOLAPUK AEbSMALLsbCAPITAL LETTER VOLAPUK OEbSMALLs",
    "bCAPITAL LETTER VOLAPUK UEbSMALLsbCAPITAL LETTER G WITH OBLIQUE STROKEbSMALLu",
    "bCAPITAL LETTER KsbSMALLubCAPITAL LETTER NsbSMALLubCAPITAL LETTER RsbSMALLu",
    "bCAPITAL LETTER SsbSMALLubCAPITAL LETTER H WITH HOOKdREVERSED OPEN EdSCRIPT GdL WITH BELT",
    "dSMALL CAPITAL IbLETTER SMALL CAPITAL QbCAPITAL LETTER TURNED KeTdJ WITH CROSSED-TAILdCHI",
    "dBETAbSMALLrbCAPITAL LETTER OMEGAbSMALLrbCAPITAL LETTER U WITH STROKEbSMALLt",
    "bCAPITAL LETTER GLOTTAL AbSMALLsbCAPITAL LETTER GLOTTAL IbSMALLsbCAPITAL LETTER GLOTTAL U",
    "bSMALLsbCAPITAL LETTER OLD POLISH ObSMALLtbCAPITAL LETTER ANGLICANA WbSMALLs",
    "bCAPITAL LETTER C WITH PALATAL HOOKdS WITHqdZ WITH PALATALqdD WITH SHORT STROKE OVERLAY",
    "bSMALLvbCAPITAL LETTER StbSMALLv"]⟩,
    ⟨0xA7D0, ["aLATIN CAPITAL LETTER CLOSED INSULAR GbSMALLt"]⟩,
    ⟨0xA7D3, ["aLATIN SMALL LETTER DOUBLE THORN"]⟩,
    ⟨0xA7D5, [
    "aLATIN SMALL LETTER DOUBLE WYNNbCAPITAL LETTER MIDDLE SCOTS SbSMALLt",
    "bCAPITAL LETTER SIGMOIDqbSMALLs"]⟩,
    ⟨0xA7F2, [
    "aMODIFIER LETTER CAPITAL CdFdQaLATIN CAPITAL LETTER REVERSED HALF HbSMALLt",
    "bEPIGRAPHIC LETTER SIDEWAYS IaMODIFIER LETTER CAPITAL H WITH STROKEcSMALL LIGATURE OE",
    "aLATIN LETTER SMALL CAPITAL TURNED MbEPIGRAPHIC LETTER REVERSED FePdINVERTED MdI LONGA",
    "dARCHAIC MaSYLOTI NAGRI LETTER AdIcSIGN DVISVARAcLETTER UdEdOcSIGN HASANTAcLETTER KOdKHOdGO",
    "dGHOcSIGN ANUSVARAcLETTER COdCHOdJOdJHOdTTOdTTHOdDDOdDDHOdTOdTHOdDOdDHOdNOdPOdPHOdBOdBHOdMO",
    "dROdLOdRROdSOdHOcVOWEL SIGN AeIeUeEeOOcPOETRY MARK-1+++cSIGN ALTERNATE HASANTA"]⟩,
    ⟨0xA830, [
    "aNORTH INDIC FRACTION ONE QUARTEReHALFdTHREE QUARTERSdONE SIXTEENTHeEIGHTHdTHREE SIXTEENTHS",
    "cQUARTER MARKcPLACEHOLDERqcRUPEEqcQUANTITYq"]⟩,
    ⟨0xA840, [
    "aPHAGS-PA LETTER KAcKHAcGAcNGAcCAcCHAcJAcNYAcTAcTHAcDAcNAcPAcPHAcBAcMAcTSAcTSHAcDZAcWAcZHA",
    "cZAcSMALL AcYAcRAcLAcSHAcSAcHAcAcIcUcEcOcQAcXAcFAcGGAcEEbSUBJOINED LETTER WAdYAbLETTER TTA",
    "cTTHAcDDAcNNAcALTERNATE YAcVOICELESS SHAcVOICED HAcASPIRATED FAbSUBJOINED LETTER RA",
    "bSUPERFIXEDrbLETTER CANDRABINDUbSINGLE HEAD MARKbDOUBLErbMARK SHADcDOUBLEq"]⟩,
    ⟨0xA880, [
    "aSAURASHTRA SIGN ANUSVARAcVISARGAbLETTER AcAAcIcIIcUcUUcVOCALIC RdRRdLdLLcEcEEcAIcOcOOcAU",
    "cKAcKHAcGAcGHAcNGAcCAcCHAcJAcJHAcNYAcTTAcTTHAcDDAcDDHAcNNAcTAcTHAcDAcDHAcNAcPAcPHAcBAcBHA",
    "cMAcYAcRAcLAcVAcSHAcSSAcSAcHAcLLAbCONSONANT SIGN HAARUbVOWEL SIGN AAdIdIIdUdUUdVOCALIC ReRR",
    "eLeLLdEdEEdAIdOdOOdAUbSIGN VIRAMAcCANDRABINDU"]⟩,
    ⟨0xA8CE, [
    "aSAURASHTRA DANDAbDOUBLEqbDIGIT ZEROcONEcTWOcTHREEcFOURcFIVEcSIXcSEVENcEIGHTcNINE"]⟩,
    ⟨0xA8E0, [
    "aCOMBINING DEVANAGARI DIGIT ZEROdONEdTWOdTHREEdFOURdFIVEdSIXdSEVENdEIGHTdNINEcLETTER AdUdKA",
    "dNAdPAdRAdVIcSIGN AVAGRAHAaDEVANAGARI SIGN SPACING CANDRABINDUcCANDRABINDU VIRAMAcDOUBLEr",
    "cCANDRABINDU TWOdTHREEdAVAGRAHAcPUSHPIKAbGAP FILLERbCARETbHEADSTROKEbSIGN SIDDHAMbJAIN OM",
    "bLETTER AYbVOWEL SIGNqaKAYAH LI DIGIT ZEROdONEdTWOdTHREEdFOURdFIVEdSIXdSEVENdEIGHTdNINE",
    "cLETTER KAdKHAdGAdNGAdSAdSHAdZAdNYAdTAdHTAdNAdPAdPHAdMAdDAdBAdRAdYAdLAdWAdTHAdHAdVAdCAdAdOE",
    "dIdOOcVOWEL UEdEdUdEEdOcTONE PLOPHUdCALYAePLOPHUcSIGN CWIdSHYAaREJANG LETTER KAcGAcNGAcTA",
    "cDAcNAcPAcBAcMAcCAcJAcNYAcSAcRAcLAcYAcWAcHAcMBAcNGGAcNDAcNYJAcAbVOWEL SIGN IdUdEdAIdOdAUdEU",
    "dEAbCONSONANT SIGN NGdNdRdHbVIRAMA"]⟩,
    ⟨0xA95F, [
    "aREJANG SECTION MARKaHANGUL CHOSEONG TIKEUT-MIEUMcTIKEUT-PIEUPcTIKEUT-SIOScTIKEUT-CIEUC",
    "cRIEUL-KIYEOKcRIEUL-SSANGKIYEOKcRIEUL-TIKEUTcRIEUL-SSANGTIKEUTcRIEUL-MIEUMcRIEUL-PIEUP",
    "cRIEUL-SSANGPIEUPcRIEUL-KAPYEOUNPIEUPcRIEUL-SIOScRIEUL-CIEUCcRIEUL-KHIEUKHcMIEUM-KIYEOK",
    "cMIEUM-TIKEUTcMIEUM-SIOScPIEUP-SIOS-THIEUTHcPIEUP-KHIEUKHcPIEUP-HIEUHcSSANGSIOS-PIEUP",
    "cIEUNG-RIEULcIEUNG-HIEUHcSSANGCIEUC-HIEUHcSSANGTHIEUTHcPHIEUPH-HIEUHcHIEUH-SIOS",
    "cSSANGYEORINHIEUH"]⟩,
    ⟨0xA980, [
    "aJAVANESE SIGN PANYANGGAcCECAKcLAYARcWIGNYANbLETTER AcI KAWIdcIIcUcPA CEREKcNGA LELET",
    "eRASWADIcEcAIcOcKAdSASAKdMURDAcGAdMURDAcNGAcCAdMURDAcJAcNYA MURDAcJA MAHAPRANAcNYAcTTA",
    "dMAHAPRANAcDDAdMAHAPRANAcNA MURDAcTAdMURDAcDAdMAHAPRANAcNAcPAdMURDAcBAdMURDAcMAcYAcRAdAGUNG",
    "cLAcWAcSA MURDAdMAHAPRANAdcHAbSIGN CECAK TELUbVOWEL SIGN TARUNGdTOLONGdWULUeMELIKdSUKU",
    "eMENDUTdTALINGdDIRGA MUREdPEPETbCONSONANT SIGN KERETdPENGKALdCAKRAbPANGKONbLEFT RERENGGAN",
    "bRIGHTqbPADA ANDAPcMADYAcLUHURcWINDUcPANGKATcLINGSAcLUNGSIcADEGdADEGcPISELEHbTURNEDr"]⟩,
    ⟨0xA9CF, ["aJAVANESE PANGRANGKEPbDIGIT ZEROcONEcTWOcTHREEcFOURcFIVEcSIXcSEVENcEIGHTcNINE"]⟩,
    ⟨0xA9DE, [
    "aJAVANESE PADA TIRTA TUMETEScISEN-ISENaMYANMAR LETTER SHAN GHAdCHAdJHAdNNAdBHA",
    "bSIGN SHAN SAWbMODIFIER LETTER SHAN REDUPLICATIONbLETTER TAI LAING NYAeFAeGAeGHAeJAeJHAeDDA",
    "eDDHAeNNAbTAI LAING DIGIT ZEROeONEeTWOeTHREEeFOUReFIVEeSIXeSEVENeEIGHTeNINE",
    "bLETTER TAI LAING LLAeDAeDHAeBAeBHA"]⟩,
    ⟨0xAA00, [
    "aCHAM LETTER AcIcUcEcAIcOcKAcKHAcGAcGHAcNGUEcNGAcCHAcCHHAcJAcJHAcNHUEcNHAcNHJAcTAcTHAcDA",
    "cDHAcNUEcNAcDDAcPAcPPAcPHAcBAcBHAcMUEcMAcBBAcYAcRAcLAcVAcSSAcSAcHAbVOWEL SIGN AAdIdIIdEIdU",
    "dOEdOdAIdAUdUEbCONSONANT SIGN YAdRAdLAdWA"]⟩,
    ⟨0xAA40, [
    "aCHAM LETTER FINAL KdGdNGbCONSONANT SIGNrbLETTER FINAL CHdTdNdPdYdRdLdSS",
    "bCONSONANT SIGN FINAL MeH"]⟩,
    ⟨0xAA50, ["aCHAM DIGIT ZEROcONEcTWOcTHREEcFOURcFIVEcSIXcSEVENcEIGHTcNINE"]⟩,
    ⟨0xAA5C, [
    "aCHAM PUNCTUATION SPIRALcDANDAcDOUBLEqcTRIPLEqaMYANMAR LETTER KHAMTI GAdCAdCHAdJAdJHAdNYA",
    "dTTAdTTHAdDDAdDDHAdDHAdNAdSAdHAdHHAdFAbMODIFIER LETTER KHAMTI REDUPLICATION",
    "bLETTER KHAMTI XAdZAdRAbLOGOGRAM KHAMTI OAYdQNdHMbSYMBOL AITON EXCLAMATIONdONEdTWO",
    "bLETTER AITON RAbSIGN PAO KAREN TONEcTAI LAING TONE-2eTONE-5bLETTER SHWE PALAUNG CHAeSHA",
    "aTAI VIET LETTER LOW KOdHIGHqdLOW KHOdHIGHqdLOW KHHOdHIGHqdLOW GOdHIGHqdLOW NGOdHIGHq",
    "dLOW COdHIGHqdLOW CHOdHIGHqdLOW SOdHIGHqdLOW NYOdHIGHqdLOW DOdHIGHqdLOW TOdHIGHqdLOW THO",
    "dHIGHqdLOW NOdHIGHqdLOW BOdHIGHqdLOW POdHIGHqdLOW PHOdHIGHqdLOW FOdHIGHqdLOW MOdHIGHq",
    "dLOW YOdHIGHqdLOW ROdHIGHqdLOW LOdHIGHqdLOW VOdHIGHqdLOW HOdHIGHqdLOW OdHIGHqcMAI KANG",
    "cVOWEL AAdIdUEdUdEdOcMAI KHITcVOWEL IAdUEAdUAdAUEdAYdANdAMcTONE MAI EKeNUENGeTHOeSONG"]⟩,
    ⟨0xAADB, [
    "aTAI VIET SYMBOL KONdNUENGdSAMdHO HOIdKOI KOIaMEETEI MAYEK LETTER EdOdCHAdNYAdTTAdTTHAdDDA",
    "dDDHAdNNAdSHAdSSAcVOWEL SIGN IIeUUeAAIeAUeAAUcCHEIKHANcAHANG KHUDAMcANJI",
    "cSYLLABLE REPETITION MARKcWORDrcVOWEL SIGN VISARGAcVIRAMA"]⟩,
    ⟨0xAB01, ["aETHIOPIC SYLLABLE TTHUcTTHIcTTHAAcTTHEEcTTHEcTTHO"]⟩,
    ⟨0xAB09, ["aETHIOPIC SYLLABLE DDHUcDDHIcDDHAAcDDHEEcDDHEcDDHO"]⟩,
    ⟨0xAB11, ["aETHIOPIC SYLLABLE DZUcDZIcDZAAcDZEEcDZEcDZO"]⟩,
    ⟨0xAB20, ["aETHIOPIC SYLLABLE CCHHAcCCHHUcCCHHIcCCHHAAcCCHHEEcCCHHEcCCHHO"]⟩,
    ⟨0xAB28, ["aETHIOPIC SYLLABLE BBAcBBUcBBIcBBAAcBBEEcBBEcBBO"]⟩,
    ⟨0xAB30, [
    "aLATIN SMALL LETTER BARRED ALPHAdA REVERSED-SCHWAdBLACKLETTER EdBARREDqdE WITH FLOURISH",
    "dLENIS FdSCRIPT G WITH CROSSED-TAILdL WITH INVERTED LAZY SfDOUBLE MIDDLE TILDEfMIDDLE RING",
    "dM WITH CROSSED-TAILdNrdENGrdBLACKLETTER OfWITH STROKEdOPENsdINVERTED OE",
    "dTURNED OE WITH STROKEgHORIZONTALqeO OPEN-OgWITH STROKEdSTIRRUP R",
    "bLETTER SMALL CAPITAL R WITH RIGHT LEGbSMALL LETTER R WITHOUT HANDLEdDOUBLE R",
    "dR WITH CROSSED-TAILdDOUBLEsdSCRIPT RfWITH RINGdBASELINE ESHdU WITH SHORT RIGHT LEGeBARtdUI",
    "dTURNEDqdU WITH LEFT HOOKdCHIeWITH LOW RIGHT RINGgLEFT SERIFdX WITH LOW RIGHT RING",
    "fLONG LEFT LEGiAND LOW RIGHT RINGiWITH SERIFdY WITH SHORT RIGHT LEG",
    "aMODIFIER BREVE WITH INVERTED BREVEbLETTER SMALL HENGdL WITH INVERTED LAZY SfMIDDLE TILDE",
    "dU WITH LEFT HOOKaLATIN SMALL LETTER SAKHA YATdIOTIFIED EdOPEN OEdUOdINVERTED ALPHA",
    "aGREEK LETTER SMALL CAPITAL OMEGAaLATIN SMALL LETTER DZ DIGRAPH WITH RETROFLEX HOOKdTSt",
    "dTURNED R WITH MIDDLE TILDEaMODIFIER LETTER SMALL TURNED WcLEFT TACKcRIGHTq"]⟩,
    ⟨0xAB70, [
    "aCHEROKEE SMALL LETTER AdEdIdOdUdVdGAdKAdGEdGIdGOdGUdGVdHAdHEdHIdHOdHUdHVdLAdLEdLIdLOdLUdLV",
    "dMAdMEdMIdMOdMUdNAdHNAdNAHdNEdNIdNOdNUdNVdQUAdQUEdQUIdQUOdQUUdQUVdSAdSdSEdSIdSOdSUdSVdDAdTA",
    "dDEdTEdDIdTIdDOdDUdDVdDLAdTLAdTLEdTLIdTLOdTLUdTLVdTSAdTSEdTSIdTSOdTSUdTSVdWAdWEdWIdWOdWUdWV",
    "dYAaMEETEI MAYEK LETTER KOKdSAMdLAIdMITdPAdNAdCHILdTILdKHOUdNGOUdTHOUdWAIdYANGdHUKdUNdI",
    "dPHAMdATIYAdGOKdJHAMdRAIdBAdJILdDILdGHOUdDHOUdBHAMdKOK LONSUMdLAIqdMITqdPAqdNAqdTILqdNGOUq",
    "dIqcVOWEL SIGN ONAPeINAPeANAPeYENAPeSOUNAPeUNAPeCHEINAPeNUNGcCHEIKHEIcLUM IYEKcAPUNq"]⟩,
    ⟨0xABF0, ["aMEETEI MAYEK DIGIT ZEROdONEdTWOdTHREEdFOURdFIVEdSIXdSEVENdEIGHTdNINE"]⟩]

/-- The names from U+AC00 to U+FFFF. -/
def fromAC00 : List Block :=
  [⟨0xD7B0, [
    "aHANGUL JUNGSEONG O-YEOcO-O-IcYO-AcYO-AEcYO-EOcU-YEOcU-I-IcYU-AEcYU-OcEU-AcEU-EOcEU-EcEU-O",
    "cI-YA-OcI-YAEcI-YEOcI-YEcI-O-IcI-YOcI-YUcI-IcARAEA-AcARAEA-E"]⟩,
    ⟨0xD7CB, [
    "aHANGUL JONGSEONG NIEUN-RIEULcNIEUN-CHIEUCHcSSANGTIKEUTcSSANGTIKEUT-PIEUPcTIKEUT-PIEUP",
    "cTIKEUT-SIOScTIKEUT-SIOS-KIYEOKcTIKEUT-CIEUCcTIKEUT-CHIEUCHcTIKEUT-THIEUTH",
    "cRIEUL-SSANGKIYEOKcRIEUL-KIYEOK-HIEUHcSSANGRIEUL-KHIEUKHcRIEUL-MIEUM-HIEUH",
    "cRIEUL-PIEUP-TIKEUTcRIEUL-PIEUP-PHIEUPHcRIEUL-YESIEUNGcRIEUL-YEORINHIEUH-HIEUH",
    "cKAPYEOUNRIEULcMIEUM-NIEUNcMIEUM-SSANGNIEUNcSSANGMIEUMcMIEUM-PIEUP-SIOScMIEUM-CIEUC",
    "cPIEUP-TIKEUTcPIEUP-RIEUL-PHIEUPHcPIEUP-MIEUMcSSANGPIEUPcPIEUP-SIOS-TIKEUTcPIEUP-CIEUC",
    "cPIEUP-CHIEUCHcSIOS-MIEUMcSIOS-KAPYEOUNPIEUPcSSANGSIOS-KIYEOKcSSANGSIOS-TIKEUTcSIOS-PANSIOS",
    "cSIOS-CIEUCcSIOS-CHIEUCHcSIOS-THIEUTHcSIOS-HIEUHcPANSIOS-PIEUPcPANSIOS-KAPYEOUNPIEUP",
    "cYESIEUNG-MIEUMcYESIEUNG-HIEUHcCIEUC-PIEUPcCIEUC-SSANGPIEUPcSSANGCIEUCcPHIEUPH-SIOS",
    "cPHIEUPH-THIEUTH"]⟩,
    ⟨0xFB00, ["aLATIN SMALL LIGATURE FFdFIdFLdFFIdFFLdLONG S TdST"]⟩,
    ⟨0xFB13, ["aARMENIAN SMALL LIGATURE MEN NOWeECHeINIdVEW NOWdMEN XEH"]⟩,
    ⟨0xFB1D, [
    "aHEBREW LETTER YOD WITH HIRIQbPOINT JUDEO-SPANISH VARIKAbLIGATURE YIDDISH YOD YOD PATAH",
    "bLETTER ALTERNATIVE AYINcWIDE ALEFdDALETdHEdKAFdLAMEDdFINAL MEMdRESHdTAV",
    "cALTERNATIVE PLUS SIGNcSHIN WITH SHIN DOTeSINqeDAGESH AND SHINqgSINqcALEF WITH PATAHeQAMATS",
    "eMAPIQcBET WITH DAGESHcGIMELrcDALETrcHE WITH MAPIQcVAV WITH DAGESHcZAYINr"]⟩,
    ⟨0xFB38, ["aHEBREW LETTER TET WITH DAGESHcYODrcFINAL KAFrcscLAMEDr"]⟩,
    ⟨0xFB3E, ["aHEBREW LETTER MEM WITH DAGESH"]⟩,
    ⟨0xFB40, ["aHEBREW LETTER NUN WITH DAGESHcSAMEKHr"]⟩,
    ⟨0xFB43, ["aHEBREW LETTER FINAL PE WITH DAGESHcs"]⟩,
    ⟨0xFB46, [
    "aHEBREW LETTER TSADI WITH DAGESHcQOFrcRESHrcSHINrcTAVrcVAV WITH HOLAMcBET WITH RAFEcKAFr",
    "cPErbLIGATURE ALEF LAMEDaARABIC LETTER ALEF WASLA ISOLATED FORMeFINALqcBEEH ISOLATEDq",
    "dFINALqdINITIALqdMEDIALqcPEH ISOLATEDqdFINALqdINITIALqdMEDIALqcBEHEH ISOLATEDqdFINALq",
    "dINITIALqdMEDIALqcTTEHEH ISOLATEDqdFINALqdINITIALqdMEDIALqcTEHEH ISOLATEDqdFINALqdINITIALq",
    "dMEDIALqcTTEH ISOLATEDqdFINALqdINITIALqdMEDIALqcVEH ISOLATEDqdFINALqdINITIALqdMEDIALq",
    "cPEHEH ISOLATEDqdFINALqdINITIALqdMEDIALqcDYEH ISOLATEDqdFINALqdINITIALqdMEDIALq",
    "cNYEH ISOLATEDqdFINALqdINITIALqdMEDIALqcTCHEH ISOLATEDqdFINALqdINITIALqdMEDIALq",
    "cTCHEHEH ISOLATEDqdFINALqdINITIALqdMEDIALqcDDAHAL ISOLATEDqdFINALqcDAHAL ISOLATEDqdFINALq",
    "cDUL ISOLATEDqdFINALqcDDAL ISOLATEDqdFINALqcJEH ISOLATEDqdFINALqcRREH ISOLATEDqdFINALq",
    "cKEHEH ISOLATEDqdFINALqdINITIALqdMEDIALqcGAF ISOLATEDqdFINALqdINITIALqdMEDIALq",
    "cGUEH ISOLATEDqdFINALqdINITIALqdMEDIALqcNGOEH ISOLATEDqdFINALqdINITIALqdMEDIALq",
    "cNOON GHUNNA ISOLATEDqeFINALqcRNOON ISOLATEDqdFINALqdINITIALqdMEDIALq",
    "cHEH WITH YEH ABOVE ISOLATEDqgFINALqdGOAL ISOLATEDqeFINALqeINITIALqeMEDIALq",
    "dDOACHASHMEE ISOLATEDqeFINALqeINITIALqeMEDIALqcYEH BARREE ISOLATEDqeFINALq",
    "eWITH HAMZA ABOVE ISOLATEDqhFINALqbSYMBOL DOT ABOVEdBELOWcTWO DOTS ABOVEeBELOW",
    "cTHREE DOTS ABOVEeBELOWePOINTING DOWNWARDS ABOVEgBELOWcFOUR DOTS ABOVEeBELOW",
    "cDOUBLE VERTICAL BARqcTWO DOTS VERTICALLY ABOVEfBELOWcRINGcSMALL TAH ABOVEeBELOW",
    "cWASLA ABOVE"]⟩,
    ⟨0xFBD3, [
    "aARABIC LETTER NG ISOLATED FORMdFINALqdINITIALqdMEDIALqcU ISOLATEDqdFINALqcOE ISOLATEDq",
    "dFINALqcYU ISOLATEDqdFINALqcU WITH HAMZA ABOVE ISOLATEDqcVErdFINALqcKIRGHIZ OE ISOLATEDq",
    "eFINALqdYU ISOLATEDqeFINALqcE ISOLATEDqdFINALqdINITIALqdMEDIALq",
    "cUIGHUR KAZAKH KIRGHIZ ALEF MAKSURA INITIALqhMEDIALq",
    "bLIGATURE YEH WITH HAMZA ABOVE WITH ALEF ISOLATEDqiFINALqhAE ISOLATEDqiFINALqhWAW ISOLATEDq",
    "iFINALqhU ISOLATEDqiFINALqhOE ISOLATEDqiFINALqhYU ISOLATEDqiFINALqhE ISOLATEDqiFINALq",
    "iINITIALqcUIGHUR KIRGHIZ YEH WITH HAMZA ABOVE WITH ALEF MAKSURA ISOLATEDqlFINALqlINITIALq",
    "bLETTER FARSI YEH ISOLATEDqeFINALqeINITIALqeMEDIALq",
    "bLIGATURE YEH WITH HAMZA ABOVE WITH JEEM ISOLATEDqhHAHrhMEEMrhALEF MAKSURArhYEHr",
    "cBEH WITH JEEMreHAHreKHAHreMEEMreALEF MAKSURAreYEHrcTEH WITH JEEMreHAHreKHAHreMEEMr",
    "eALEF MAKSURAreYEHrcTHEH WITH JEEMreMEEMreALEF MAKSURAreYEHrcJEEM WITH HAHreMEEMr",
    "cHAH WITH JEEMreMEEMrcKHAH WITH JEEMreHAHreMEEMrcSEEN WITH JEEMreHAHreKHAHreMEEMr",
    "cSAD WITH HAHreMEEMrcDAD WITH JEEMreHAHreKHAHreMEEMrcTAH WITH HAHreMEEMrcZAHt",
    "cAIN WITH JEEMreMEEMrcGHAIN WITH JEEMreMEEMrcFEH WITH JEEMreHAHreKHAHreMEEMreALEF MAKSURAr",
    "eYEHrcQAF WITH HAHreMEEMreALEF MAKSURAreYEHrcKAF WITH ALEFreJEEMreHAHreKHAHreLAMreMEEMr",
    "eALEF MAKSURAreYEHrcLAM WITH JEEMreHAHreKHAHreMEEMreALEF MAKSURAreYEHrcMEEM WITH JEEMreHAHr",
    "eKHAHreMEEMreALEF MAKSURAreYEHrcNOON WITH JEEMreHAHreKHAHreMEEMreALEF MAKSURAreYEHr",
    "cHEH WITH JEEMreMEEMreALEF MAKSURAreYEHrcYEH WITH JEEMreHAHreKHAHreMEEMreALEF MAKSURAreYEHr",
    "cTHAL WITH SUPERSCRIPT ALEFrcREHucALEF MAKSURAucSHADDA WITH DAMMATANreKASRATANreFATHAr",
    "eDAMMAreKASRAreSUPERSCRIPT ALEFrcYEH WITH HAMZA ABOVE WITH REH FINALqhZAINrhMEEMrhNOONr",
    "hALEF MAKSURArhYEHrcBEH WITH REHreZAINreMEEMreNOONreALEF MAKSURAreYEHrcTEH WITH REHreZAINr",
    "eMEEMreNOONreALEF MAKSURAreYEHrcTHEH WITH REHreZAINreMEEMreNOONreALEF MAKSURAreYEHr",
    "cFEH WITH ALEF MAKSURAreYEHrcQAF WITH ALEF MAKSURAreYEHrcKAF WITH ALEFreLAMreMEEMr",
    "eALEF MAKSURAreYEHrcLAM WITH MEEMreALEF MAKSURAreYEHrcMEEM WITH ALEFreMEEMrcNOON WITH REHr",
    "eZAINreMEEMreNOONreALEF MAKSURAreYEHrcALEF MAKSURA WITH SUPERSCRIPT ALEFrcYEH WITH REHr",
    "eZAINreMEEMreNOONreALEF MAKSURAreYEHreHAMZA ABOVE WITH JEEM INITIALqhHAHrhKHAHrhMEEMrhHEHr",
    "cBEH WITH JEEMreHAHreKHAHreMEEMreHEHrcTEH WITH JEEMreHAHreKHAHreMEEMreHEHrcTHEH WITH MEEMr",
    "cJEEM WITH HAHreMEEMrcHAH WITH JEEMreMEEMrcKHAH WITH JEEMreMEEMrcSEEN WITH JEEMreHAHreKHAHr",
    "eMEEMrcSAD WITH HAHreKHAHreMEEMrcDAD WITH JEEMreHAHreKHAHreMEEMrcTAH WITH HAHr",
    "cZAH WITH MEEMrcAIN WITH JEEMreMEEMrcGHAIN WITH JEEMreMEEMrcFEH WITH JEEMreHAHreKHAHreMEEMr",
    "cQAF WITH HAHreMEEMrcKAF WITH JEEMreHAHreKHAHreLAMreMEEMrcLAM WITH JEEMreHAHreKHAHreMEEMr",
    "eHEHrcMEEM WITH JEEMreHAHreKHAHreMEEMrcNOON WITH JEEMreHAHreKHAHreMEEMreHEHrcHEH WITH JEEMr",
    "eMEEMreSUPERSCRIPT ALEFrcYEH WITH JEEMreHAHreKHAHreMEEMreHEHreHAMZA ABOVE WITH MEEM MEDIALq",
    "hHEHrcBEH WITH MEEMreHEHrcTEH WITH MEEMreHEHrcTHEH WITH MEEMreHEHrcSEEN WITH MEEMreHEHr",
    "cSHEEN WITH MEEMreHEHrcKAF WITH LAMreMEEMrcLAMtcNOONteHEHrcYEH WITH MEEMreHEHr",
    "cSHADDA WITH FATHAreDAMMAreKASRArcTAH WITH ALEF MAKSURA ISOLATEDqeYEHr",
    "cAIN WITH ALEF MAKSURAreYEHrcGHAIN WITH ALEF MAKSURAreYEHrcSEEN WITH ALEF MAKSURAreYEHr",
    "cSHEEN WITH ALEF MAKSURAreYEHrcHAH WITH ALEF MAKSURAreYEHrcJEEM WITH ALEF MAKSURAreYEHr",
    "cKHAH WITH ALEF MAKSURAreYEHrcSAD WITH ALEF MAKSURAreYEHrcDAD WITH ALEF MAKSURAreYEHr",
    "cSHEEN WITH JEEMreHAHreKHAHreMEEMreREHrcSEENtcSADtcDADtcTAH WITH ALEF MAKSURA FINALqeYEHr",
    "cAIN WITH ALEF MAKSURAreYEHrcGHAIN WITH ALEF MAKSURAreYEHrcSEEN WITH ALEF MAKSURAreYEHr",
    "cSHEEN WITH ALEF MAKSURAreYEHrcHAH WITH ALEF MAKSURAreYEHrcJEEM WITH ALEF MAKSURAreYEHr",
    "cKHAH WITH ALEF MAKSURAreYEHrcSAD WITH ALEF MAKSURAreYEHrcDAD WITH ALEF MAKSURAreYEHr",
    "cSHEEN WITH JEEMreHAHreKHAHreMEEMreREHrcSEENtcSADtcDADtcSHEEN WITH JEEM INITIALqeHAHreKHAHr",
    "eMEEMrcSEEN WITH HEHrcSHEENtcTAH WITH MEEMrcSEEN WITH JEEM MEDIALqeHAHreKHAHr",
    "cSHEEN WITH JEEMreHAHreKHAHrcTAH WITH MEEMrcZAHtcALEF WITH FATHATAN FINALqfISOLATEDq",
    "aORNATE LEFT PARENTHESISbRIGHTqaARABIC LIGATURE RAHIMAHU ALLAAHcRADI ALLAAHU ANHeANHAA",
    "eANHUMeANHUMAAeANHUNNAcSALLALLAAHU ALAYHI WA-AALIHcALAYHI AS-SALAAMcALAYHIMqcALAYHIMAAq",
    "cALAYHI AS-SALAATU WAS-SALAAMcQUDDISA SIRRAHcSALLALLAHU ALAYHI WAAALIHEE WA-SALLAM",
    "cALAYHAA AS-SALAAMcTABAARAKA WA-TAAALAAcRAHIMAHUM ALLAAH",
    "cTEH WITH JEEM WITH MEEM INITIAL FORMeHAH WITH JEEM FINALqhINITIALqgMEEMreKHAHt",
    "eMEEM WITH JEEMrgHAHrgKHAHrcJEEM WITH MEEM WITH HAH FINALqhINITIALq",
    "cHAH WITH MEEM WITH YEH FINALqgALEF MAKSURArcSEEN WITH HAH WITH JEEM INITIALq",
    "eJEEM WITH HAHrgALEF MAKSURA FINALqeMEEM WITH HAHrhINITIALqgJEEMrgMEEM FINALqhINITIALq",
    "cSAD WITH HAH WITH HAH FINALqhINITIALqeMEEM WITH MEEM FINALqcSHEEN WITH HAHthINITIALq",
    "eJEEM WITH YEH FINALqeMEEM WITH KHAHrhINITIALqgMEEM FINALqhINITIALq",
    "cDAD WITH HAH WITH ALEF MAKSURA FINALqeKHAH WITH MEEMrhINITIALq",
    "cTAH WITH MEEM WITH HAH FINALqhINITIALqgMEEMrgYEH FINALqcAIN WITH JEEM WITH MEEMreMEEMt",
    "hINITIALqgALEF MAKSURA FINALqcGHAIN WITH MEEM WITH MEEMrgYEHrgALEF MAKSURAr",
    "cFEH WITH KHAH WITH MEEMrhINITIALqcQAF WITH MEEM WITH HAH FINALqgMEEMrcLAM WITH HAHtgYEHr",
    "gALEF MAKSURAreJEEM WITH JEEM INITIALqhFINALqeKHAH WITH MEEMrhINITIALqeMEEM WITH HAH FINALq",
    "hINITIALqcMEEM WITH HAH WITH JEEMrgMEEMrgYEH FINALqeJEEM WITH HAH INITIALqgMEEMr",
    "eKHAH WITH JEEMrgMEEMr"]⟩,
    ⟨0xFD92, [
    "aARABIC LIGATURE MEEM WITH JEEM WITH KHAH INITIAL FORMcHEH WITH MEEM WITH JEEMrgMEEMr",
    "cNOON WITH HAHtgALEF MAKSURA FINALqeJEEM WITH MEEMrhINITIALqgALEF MAKSURA FINALq",
    "eMEEM WITH YEHrgALEF MAKSURArcYEH WITH MEEM WITH MEEMrhINITIALq",
    "cBEH WITH KHAH WITH YEH FINALqcTEH WITH JEEMtgALEF MAKSURAreKHAH WITH YEHrgALEF MAKSURAr",
    "eMEEM WITH YEHrgALEF MAKSURArcJEEM WITH MEEM WITH YEHreHAH WITH ALEF MAKSURAreMEEMu",
    "cSEEN WITH KHAHucSAD WITH HAH WITH YEHrcSHEENvcDADvcLAM WITH JEEMteMEEMtcYEH WITH HAHt",
    "eJEEMteMEEMtcMEEMvcQAFvcNOON WITH HAHtcQAF WITH MEEM WITH HAH INITIALq",
    "cLAM WITH HAH WITH MEEMrcAIN WITH MEEM WITH YEH FINALqcKAFv",
    "cNOON WITH JEEM WITH HAH INITIALqcMEEM WITH KHAH WITH YEH FINALq",
    "cLAM WITH JEEM WITH MEEM INITIALqcKAF WITH MEEM WITH MEEM FINALqcLAM WITH JEEMt",
    "cNOON WITH JEEM WITH HAHrcJEEM WITH HAH WITH YEHrcHAH WITH JEEMtcMEEMvcFEH WITH MEEMt",
    "cBEH WITH HAHtcKAF WITH MEEM WITH MEEM INITIALqcAIN WITH JEEMtcSAD WITH MEEMt",
    "cSEEN WITH KHAH WITH YEH FINALqcNOON WITH JEEMt"]⟩,
    ⟨0xFDCF, ["aARABIC LIGATURE SALAAMUHU ALAYNAA"]⟩,
    ⟨0xFDF0, [
    "aARABIC LIGATURE SALLA USED AS KORANIC STOP SIGN ISOLATED FORMcQALAwcALLAHrcAKBARr",
    "cMOHAMMADrcSALAMrcRASOULrcALAYHErcWASALLAMrcSALLArcSALLALLAHOU ALAYHE WASALLAM",
    "cJALLAJALALOUHOUaRIAL SIGNaARABIC LIGATURE BISMILLAH AR-RAHMAN AR-RAHEEM",
    "cSUBHAANAHU WA TAAALAAcAZZA WA JALLaVARIATION SELECTOR-1+++++++++++++++",
    "aPRESENTATION FORM FOR VERTICAL COMMAeIDEOGRAPHICqfFULL STOPeCOLONeSEMICOLON",
    "eEXCLAMATION MARKeQUESTIONqeLEFT WHITE LENTICULAR BRACKETeRIGHT WHITE LENTICULAR BRAKCET",
    "eHORIZONTAL ELLIPSIS"]⟩,
    ⟨0xFE20, [
    "aCOMBINING LIGATURE LEFT HALFcRIGHTqbDOUBLE TILDE LEFTqdRIGHTqbMACRON LEFTqcRIGHTq",
    "bCONJOINING MACRONbLIGATURE LEFT HALF BELOWcRIGHTrbTILDE LEFTrcRIGHTrbMACRON LEFTrcRIGHTr",
    "bCONJOINING MACRONqbCYRILLIC TITLO LEFT HALFdRIGHTq",
    "aPRESENTATION FORM FOR VERTICAL TWO DOT LEADEReEM DASHeENqeLOW LINEeWAVYreLEFT PARENTHESIS",
    "eRIGHTqeLEFT CURLY BRACKETeRIGHTreLEFT TORTOISE SHELLqeRIGHTseLEFT BLACK LENTICULARqeRIGHTs",
    "eLEFT DOUBLE ANGLEqeRIGHTseLEFTreRIGHTreLEFT CORNERqeRIGHTreLEFT WHITEreRIGHTsaSESAME DOT",
    "aWHITEraPRESENTATION FORM FOR VERTICAL LEFT SQUARE BRACKETeRIGHTraDASHED OVERLINE",
    "aCENTRELINEqaWAVYqaDOUBLEraDASHED LOW LINEaCENTRELINEraWAVYraSMALL COMMAbIDEOGRAPHICq",
    "bFULL STOP"]⟩,
    ⟨0xFE54, [
    "aSMALL SEMICOLONbCOLONbQUESTION MARKbEXCLAMATIONqbEM DASHbLEFT PARENTHESISbRIGHTq",
    "bLEFT CURLY BRACKETbRIGHTrbLEFT TORTOISE SHELLqbRIGHTsbNUMBER SIGNbAMPERSANDbASTERISK",
    "bPLUS SIGNbHYPHEN-MINUSbLESS-THAN SIGNbGREATER-THANqbEQUALSq"]⟩,
    ⟨0xFE68, ["aSMALL REVERSE SOLIDUSbDOLLAR SIGNbPERCENTqbCOMMERCIAL AT"]⟩,
    ⟨0xFE70, [
    "aARABIC FATHATAN ISOLATED FORMbTATWEEL WITH FATHATAN ABOVEbDAMMATAN ISOLATED FORM",
    "bTAIL FRAGMENTbKASRATAN ISOLATED FORM"]⟩,
    ⟨0xFE76, [
    "aARABIC FATHA ISOLATED FORMcMEDIALqbDAMMA ISOLATEDqcMEDIALqbKASRA ISOLATEDqcMEDIALq",
    "bSHADDA ISOLATEDqcMEDIALqbSUKUN ISOLATEDqcMEDIALqbLETTER HAMZA ISOLATEDq",
    "cALEF WITH MADDA ABOVErgFINALqeHAMZA ABOVE ISOLATEDqgFINALqcWAW WITH HAMZA ABOVE ISOLATEDq",
    "gFINALqcALEF WITH HAMZA BELOW ISOLATEDqgFINALqcYEH WITH HAMZA ABOVE ISOLATEDqgFINALq",
    "gINITIALqgMEDIALqcALEF ISOLATEDqdFINALqcBEH ISOLATEDqdFINALqdINITIALqdMEDIALq",
    "cTEH MARBUTA ISOLATEDqeFINALqdISOLATEDqdFINALqdINITIALqdMEDIALqcTHEH ISOLATEDqdFINALq",
    "dINITIALqdMEDIALqcJEEM ISOLATEDqdFINALqdINITIALqdMEDIALqcHAH ISOLATEDqdFINALqdINITIALq",
    "dMEDIALqcKHAH ISOLATEDqdFINALqdINITIALqdMEDIALqcDAL ISOLATEDqdFINALqcTHAL ISOLATEDqdFINALq",
    "cREH ISOLATEDqdFINALqcZAIN ISOLATEDqdFINALqcSEEN ISOLATEDqdFINALqdINITIALqdMEDIALq",
    "cSHEEN ISOLATEDqdFINALqdINITIALqdMEDIALqcSAD ISOLATEDqdFINALqdINITIALqdMEDIALq",
    "cDAD ISOLATEDqdFINALqdINITIALqdMEDIALqcTAH ISOLATEDqdFINALqdINITIALqdMEDIALqcZAH ISOLATEDq",
    "dFINALqdINITIALqdMEDIALqcAIN ISOLATEDqdFINALqdINITIALqdMEDIALqcGHAIN ISOLATEDqdFINALq",
    "dINITIALqdMEDIALqcFEH ISOLATEDqdFINALqdINITIALqdMEDIALqcQAF ISOLATEDqdFINALqdINITIALq",
    "dMEDIALqcKAF ISOLATEDqdFINALqdINITIALqdMEDIALqcLAM ISOLATEDqdFINALqdINITIALqdMEDIALq",
    "cMEEM ISOLATEDqdFINALqdINITIALqdMEDIALqcNOON ISOLATEDqdFINALqdINITIALqdMEDIALq",
    "cHEH ISOLATEDqdFINALqdINITIALqdMEDIALqcWAW ISOLATEDqdFINALqcALEF MAKSURA ISOLATEDqeFINALq",
    "cYEH ISOLATEDqdFINALqdINITIALqdMEDIALqbLIGATURE LAM WITH ALEF WITH MADDA ABOVE ISOLATEDq",
    "iFINALqgHAMZA ABOVE ISOLATEDqiFINALqhBELOW ISOLATEDqiFINALqfISOLATEDqfFINALq"]⟩,
    ⟨0xFEFF, ["aZERO WIDTH NO-BREAK SPACE"]⟩,
    ⟨0xFF01, [
    "aFULLWIDTH EXCLAMATION MARKbQUOTATIONqbNUMBER SIGNbDOLLARqbPERCENTqbAMPERSANDbAPOSTROPHE",
    "bLEFT PARENTHESISbRIGHTqbASTERISKbPLUS SIGNbCOMMAbHYPHEN-MINUSbFULL STOPbSOLIDUSbDIGIT ZERO",
    "cONEcTWOcTHREEcFOURcFIVEcSIXcSEVENcEIGHTcNINEbCOLONbSEMICOLONbLESS-THAN SIGNbEQUALSq",
    "bGREATER-THANqbQUESTION MARKbCOMMERCIAL ATbLATIN CAPITAL LETTER AeBeCeDeEeFeGeHeIeJeKeLeMeN",
    "eOePeQeReSeTeUeVeWeXeYeZbLEFT SQUARE BRACKETbREVERSE SOLIDUSbRIGHT SQUARE BRACKET",
    "bCIRCUMFLEX ACCENTbLOW LINEbGRAVE ACCENTbLATIN SMALL LETTER AeBeCeDeEeFeGeHeIeJeKeLeMeNeOeP",
    "eQeReSeTeUeVeWeXeYeZbLEFT CURLY BRACKETbVERTICAL LINEbRIGHT CURLY BRACKETbTILDE",
    "bLEFT WHITE PARENTHESISbRIGHTraHALFWIDTH IDEOGRAPHIC FULL STOPbLEFT CORNER BRACKETbRIGHTr",
    "bIDEOGRAPHIC COMMAbKATAKANA MIDDLE DOTcLETTER WOdSMALL AeIeUeEeOeYAeYUeYOeTU",
    "bKATAKANA-HIRAGANA PROLONGED SOUND MARKbKATAKANA LETTER AdIdUdEdOdKAdKIdKUdKEdKOdSAdSIdSU",
    "dSEdSOdTAdTIdTUdTEdTOdNAdNIdNUdNEdNOdHAdHIdHUdHEdHOdMAdMIdMUdMEdMOdYAdYUdYOdRAdRIdRUdREdRO",
    "dWAdNcVOICED SOUND MARKcSEMI-VOICEDrbHANGUL FILLERcLETTER KIYEOKdSSANGKIYEOKdKIYEOK-SIOS",
    "dNIEUNdNIEUN-CIEUCdNIEUN-HIEUHdTIKEUTdSSANGTIKEUTdRIEULdRIEUL-KIYEOKdRIEUL-MIEUM",
    "dRIEUL-PIEUPdRIEUL-SIOSdRIEUL-THIEUTHdRIEUL-PHIEUPHdRIEUL-HIEUHdMIEUMdPIEUPdSSANGPIEUP",
    "dPIEUP-SIOSdSIOSdSSANGSIOSdIEUNGdCIEUCdSSANGCIEUCdCHIEUCHdKHIEUKHdTHIEUTHdPHIEUPHdHIEUH"]⟩,
    ⟨0xFFC2, ["aHALFWIDTH HANGUL LETTER AdAEdYAdYAEdEOdE"]⟩,
    ⟨0xFFCA, ["aHALFWIDTH HANGUL LETTER YEOdYEdOdWAdWAEdOE"]⟩,
    ⟨0xFFD2, ["aHALFWIDTH HANGUL LETTER YOdUdWEOdWEdWIdYU"]⟩,
    ⟨0xFFDA, ["aHALFWIDTH HANGUL LETTER EUdYIdI"]⟩,
    ⟨0xFFE0, ["aFULLWIDTH CENT SIGNbPOUNDqbNOTqbMACRONbBROKEN BARbYEN SIGNbWONq"]⟩,
    ⟨0xFFE8, [
    "aHALFWIDTH FORMS LIGHT VERTICALbLEFTWARDS ARROWbUPWARDSqbRIGHTWARDSqbDOWNWARDSq",
    "bBLACK SQUAREbWHITE CIRCLE"]⟩,
    ⟨0xFFF9, [
    "aINTERLINEAR ANNOTATION ANCHORcSEPARATORcTERMINATORaOBJECT REPLACEMENT CHARACTERar"]⟩]

end RelaxCompact.CharacterName
